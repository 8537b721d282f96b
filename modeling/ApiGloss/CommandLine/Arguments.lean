import ApiGloss.Text.Lines

/-!
# Command-Line Arguments

Arguments are read from left to right. A setting takes a value, attached to it or as the next
argument; a flag takes none. An argument that is neither is the input. Behind a double dash
everything is input.

A value is checked when the next argument that is known has been recognised, or at the end,
so an unknown argument is reported before a bad value in front of it.
-/

namespace ApiGloss.CommandLine

/-- The form of the document. -/
inductive OutputFormat where
  | json
  | yaml
  deriving DecidableEq, Repr

/-- The format with a name. -/
def OutputFormat.ofName? : String → Option OutputFormat
  | "json" => some .json
  | "yaml" => some .yaml
  | _ => none

/-- The **arguments** of a run. -/
structure Arguments where
  /-- The source directory or file. -/
  input : String := "."
  /-- Where the document is written; without it, it is printed. -/
  output : Option String := none
  format : OutputFormat := .json
  /-- Patterns that select files. -/
  accepting : List String := []
  /-- Patterns that exclude files and directories. -/
  rejecting : List String := []
  /-- Keep private blocks. -/
  showPrivate : Bool := false
  /-- Keep texts as written. -/
  plainText : Bool := false
  /-- The version of blocks that declare none. -/
  defaultVersion : String := "0.0.0"
  verbose : Bool := false
  deriving DecidableEq, Repr

/-- What takes a value. -/
inductive Setting where
  | input
  | output
  | format
  | accepting
  | rejecting
  | defaultVersion
  deriving DecidableEq, Repr

/-- What takes no value. -/
inductive Flag where
  | showPrivate
  | plainText
  | verbose
  | help
  | version
  deriving DecidableEq, Repr

/-- Anything that has a name. -/
inductive Switch where
  | setting (s : Setting)
  | flag (f : Flag)
  deriving DecidableEq, Repr

/-- The switch with a long name. -/
def Switch.ofLongName? : String → Option Switch
  | "output" => some (.setting .output)
  | "format" => some (.setting .format)
  | "file-filters" => some (.setting .accepting)
  | "exclude-filters" => some (.setting .rejecting)
  | "default-version" => some (.setting .defaultVersion)
  | "private" => some (.flag .showPrivate)
  | "no-markdown" => some (.flag .plainText)
  | "verbose" => some (.flag .verbose)
  | "help" => some (.flag .help)
  | "version" => some (.flag .version)
  | _ => none

/-- The switch with a short name. -/
def Switch.ofShortName? : Char → Option Switch
  | 'o' => some (.setting .output)
  | 'f' => some (.setting .format)
  | 'v' => some (.flag .verbose)
  | 'h' => some (.flag .help)
  | 'V' => some (.flag .version)
  | _ => none

/-- Why arguments are not accepted, or what they ask for instead of a run. -/
inductive UsageProblem where
  | unknownArgument
  | invalidValue
  | argumentConflict
  | tooManyValues
  | helpRequested
  | versionRequested
  deriving DecidableEq, Repr

/-- What is known while arguments are read. -/
structure Progress where
  arguments : Arguments := {}
  /-- The switches that have taken effect. -/
  given : List Switch := []
  /-- A setting whose value is still to come or still to be checked. -/
  pending : Option (Setting × Option String) := none
  hasInput : Bool := false
  /-- A double dash has been read. -/
  onlyInput : Bool := false

namespace Progress

/-- Notes that a switch takes effect; most may do so only once. -/
def note (p : Progress) (s : Switch) (repeatable : Bool) : Except UsageProblem Progress :=
  if !repeatable && p.given.contains s then .error .argumentConflict
  else .ok { p with given := s :: p.given }

/-- A path as value must not be empty. -/
def path (value : String) : Except UsageProblem String :=
  if value = "" then .error .invalidValue else .ok value

/-- Gives a setting its value. -/
def assign (p : Progress) (s : Setting) (value : String) : Except UsageProblem Progress := do
  let p ← p.note (.setting s) (s = .accepting || s = .rejecting)
  let a := p.arguments
  let a ← match s with
    | .input => do pure { a with input := ← path value }
    | .output => do pure { a with output := some (← path value) }
    | .format =>
      match OutputFormat.ofName? value with
      | some format => pure { a with format }
      | none => .error .invalidValue
    | .accepting => pure { a with accepting := a.accepting ++ [value] }
    | .rejecting => pure { a with rejecting := a.rejecting ++ [value] }
    | .defaultVersion => pure { a with defaultVersion := value }
  return { p with arguments := a }

/-- Sets a flag. -/
def raise (p : Progress) (f : Flag) : Except UsageProblem Progress := do
  let p ← p.note (.flag f) false
  match f with
  | .showPrivate => return { p with arguments.showPrivate := true }
  | .plainText => return { p with arguments.plainText := true }
  | .verbose => return { p with arguments.verbose := true }
  | .help => .error .helpRequested
  | .version => .error .versionRequested

/-- Checks the value of the pending setting. -/
def settle (p : Progress) : Except UsageProblem Progress :=
  match p.pending with
  | none => .ok p
  | some (_, none) => .error .invalidValue
  | some (s, some value) => { p with pending := none }.assign s value

/-- Reads the input. -/
def readInput (p : Progress) (value : String) : Except UsageProblem Progress := do
  if p.hasInput then .error .unknownArgument
  else return { ← p.settle with pending := some (.input, some value), hasInput := true }

/-- Reads a long name, with the value attached to it. -/
def readLong (p : Progress) (name : String) (value : Option String) :
    Except UsageProblem Progress :=
  match Switch.ofLongName? name, value with
  | none, _ => .error .unknownArgument
  | some (.setting s), some v => do (← p.settle).assign s v
  | some (.setting s), none => do return { ← p.settle with pending := some (s, none) }
  | some (.flag _), some _ => .error .tooManyValues
  | some (.flag f), none => do (← p.settle).raise f

/-- Reads short names; behind a setting the rest is its value. -/
def readShort (p : Progress) : List Char → Except UsageProblem Progress
  | [] => .ok p
  | c :: rest =>
    match Switch.ofShortName? c with
    | none => .error .unknownArgument
    | some (.flag f) => do readShort (← (← p.settle).raise f) rest
    | some (.setting s) => do
      let p ← p.settle
      match rest with
      | [] => return { p with pending := some (s, none) }
      | '=' :: value => p.assign s (String.ofList value)
      | value => p.assign s (String.ofList value)

/-- Reads an argument. -/
def read (p : Progress) (argument : String) : Except UsageProblem Progress :=
  if p.onlyInput then p.readInput argument
  else
    match argument.toList with
    | ['-', '-'] => .ok { p with onlyInput := true }
    | '-' :: '-' :: body =>
      match Chars.splitOnce (· == '=') body with
      | some (name, value) => p.readLong (String.ofList name) (some (String.ofList value))
      | none => p.readLong (String.ofList body) none
    | '-' :: c :: cs => p.readShort (c :: cs)
    | _ =>
      match p.pending with
      | some (s, none) => .ok { p with pending := some (s, some argument) }
      | _ => p.readInput argument

end Progress

/-- **Reads the arguments** of a run. -/
def Arguments.read (arguments : List String) : Except UsageProblem Arguments := do
  let p ← arguments.foldlM Progress.read {}
  return (← p.settle).arguments

end ApiGloss.CommandLine
