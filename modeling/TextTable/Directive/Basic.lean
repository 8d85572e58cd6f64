import TextTable.Config.Basic

/-! # Directives

The format string of a column is an alignment character, groups of options and a format spec, each
of which may be absent. The characters around options are those of the configuration. Headings and
titles have an alignment character too. `Directive.parse` reads a format string and
`Directive.toText` writes one.
-/

namespace TextTable

/-- An option of a column. -/
structure DirectiveOption where
  /-- The name, without white space around it. -/
  name : Text
  /-- The text after the first equals sign, as it is written. -/
  value : Option Text
  deriving DecidableEq, Repr

/-- The parts of a column's format string. -/
structure Directive where
  align : Option Align := none
  options : List DirectiveOption := []
  spec : Text := []
  deriving DecidableEq, Repr

/-- A title without its marks. -/
structure Title where
  align : Option Align
  wrap : Bool
  text : Text
  deriving DecidableEq, Repr

/-- The alignment that the first character of a text stands for, and the rest. -/
def Config.splitAlign (config : Config) (t : Text) : Option Align × Text :=
  match t with
  | [] => (none, [])
  | c :: rest =>
    match config.alignFor c with
    | some a => (some a, rest)
    | none => (none, c :: rest)

namespace DirectiveOption

/-- The option that a token stands for. A blank token stands for none. -/
def ofToken (token : Text) : Option DirectiveOption :=
  if token.isBlank then none
  else
    match token.cutAt '=' with
    | some (name, value) => some ⟨name.trim, some value⟩
    | none => some ⟨token.trim, none⟩

/-- The token that stands for an option. -/
def toToken (o : DirectiveOption) : Text :=
  o.name ++ (o.value.map ('=' :: ·)).getD []

end DirectiveOption

namespace Directive

theorem length_cutAt {sep : Char} {t before after : Text} (h : t.cutAt sep = some (before, after)) :
    after.length < t.length := by
  rw [(Text.cutAt_eq_some_iff.mp h).1]
  simp
  omega

/-- The bodies of the groups in front of a text, and the rest. An open group is none. -/
def takeGroups (d : Delimiters) : Text → List Text × Text
  | [] => ([], [])
  | c :: rest =>
    if c = d.opening then
      match _h : Text.cutAt d.closing rest with
      | some (body, after) =>
        let (bodies, rest) := takeGroups d after
        (body :: bodies, rest)
      | none => ([], c :: rest)
    else ([], c :: rest)
termination_by t => t.length
decreasing_by
  have := length_cutAt _h
  simp only [List.length_cons]
  omega

/-- The options in the body of a group. -/
def optionsOf (d : Delimiters) (body : Text) : List DirectiveOption :=
  (body.splitOn d.separator).filterMap DirectiveOption.ofToken

/-- Reads a format string. -/
def parse (config : Config) (t : Text) : Directive :=
  let (align, rest) := config.splitAlign t
  match config.delimiters with
  | none => { align, spec := rest }
  | some d =>
    let (bodies, spec) := takeGroups d rest
    { align, options := bodies.flatMap (optionsOf d), spec }

/-- The character of an alignment. -/
def alignText (config : Config) (align : Option Align) : Text :=
  match align with
  | none => []
  | some .left => config.alignChars.take 1
  | some .center => (config.alignChars.drop 1).take 1
  | some .right => (config.alignChars.drop 2).take 1

/-- The options in one group; no options make no group. -/
def groupText (config : Config) (options : List DirectiveOption) : Text :=
  match config.delimiters with
  | none => []
  | some d =>
    if options.isEmpty then []
    else
      d.opening :: List.intercalate [d.separator] (options.map DirectiveOption.toToken) ++
        [d.closing]

/-- Writes a format string. -/
def toText (config : Config) (d : Directive) : Text :=
  alignText config d.align ++ groupText config d.options ++ d.spec

/-- The first option with the given name. -/
def option? (d : Directive) (name : Text) : Option DirectiveOption :=
  d.options.find? fun o => o.name = name

end Directive

/-- A title without its alignment character and its wrap mark. -/
def Title.parse (config : Config) (t : Text) : Title :=
  let (align, rest) := config.splitAlign t
  match config.wrapIndicator, rest with
  | some mark, c :: text => if c = mark then ⟨align, true, text⟩ else ⟨align, false, rest⟩
  | _, _ => ⟨align, false, rest⟩

end TextTable
