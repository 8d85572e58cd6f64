import TextTable.Format.Field

/-! # Scanned templates

A template is scanned into parts before it is expanded. Scanning stops at the first fault, which is
reported only if all parts before it can be expanded.
-/

namespace TextTable

/-- The parts of a template up to its first fault, and the fault if there is one. -/
structure Scan (α : Type) where
  parts : List α
  fault : Option SpecFault

namespace Scan

variable {α : Type}

/-- The scan of nothing. -/
def done : Scan α := ⟨[], none⟩

/-- The scan that stops at once. -/
def stop (fault : SpecFault) : Scan α := ⟨[], some fault⟩

/-- A part in front. -/
def cons (a : α) (s : Scan α) : Scan α := ⟨a :: s.parts, s.fault⟩

end Scan

/-- The error for the fault of a template. -/
def templateError (template : Text) : Option SpecFault → Except FormatError Unit
  | none => .ok ()
  | some fault => .error (.invalidSpec template fault)

/-- The text of a value inside of a template. -/
def Value.plainText : Value → Text
  | .string t => t
  | .float x => if x.negative then '-' :: x.plain else x.plain
  | v => v.toJson

end TextTable
