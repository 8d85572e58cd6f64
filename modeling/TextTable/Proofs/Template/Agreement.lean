import TextTable.Proofs.Template.Brace
import TextTable.Proofs.Template.Dollar
import TextTable.Proofs.Template.Percent

/-! # The notations of mapping templates agree

The three format functions for objects differ in the notation of their templates only.
-/

namespace TextTable.Builtin

/-- A mapping template shows the same text in every notation, or fails with the same key. -/
theorem call_mapping_eq (fields : Dict Value) (parts : List MappingPart) :
    call .mformat (.object fields) (parts.flatMap MappingPart.toBrace) =
        fillMapping fields parts ∧
      call .pformat (.object fields) (parts.flatMap MappingPart.toPercent) =
        fillMapping fields parts ∧
      call .tformat (.object fields) (parts.flatMap MappingPart.toDollar) =
        fillMapping fields parts :=
  ⟨Brace.expand_toBrace fields parts, Percent.expand_toPercent fields parts,
    Dollar.expand_toDollar fields parts⟩

end TextTable.Builtin
