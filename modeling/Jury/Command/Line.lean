import Jury.Command.Similar
import Jury.Text.Plain

/-!
# Command lines

A command line holds long options. A flag stands alone; a valued option takes what follows its
`=`, or else the next argument, whatever that is. An option may be given once. Every program knows
`-h`, `--help`, `-V` and `--version`, which end the reading at once.
-/

namespace Jury.Command

/-- An option of a program: its long name, the placeholder of its value if it takes one, and what
the help says of it. -/
structure OptionSpec where
  name : String
  placeholder : Option String := none
  help : String
  deriving DecidableEq, Repr

/-- The command line that a program understands. -/
structure Spec where
  /-- The name in the usage line. -/
  name : String
  /-- The name before the version. -/
  versionName : String
  options : List OptionSpec

namespace Spec

def display (spec : Spec) (name : String) : String :=
  match (spec.options.find? (·.name == name)).bind (·.placeholder) with
  | some placeholder => "--" ++ name ++ " <" ++ placeholder ++ ">"
  | none => "--" ++ name

/-- The options of the program as one choice. -/
def choice (spec : Spec) : String :=
  "<" ++ "|".intercalate (spec.options.map fun option => spec.display option.name) ++ ">"

/-- The usage line that shows the given parts, or that there are options if there is no part. -/
def usage (spec : Spec) (parts : List String) : String :=
  "Usage: " ++ spec.name ++
    (if parts.isEmpty then if spec.options.isEmpty then "" else " [OPTIONS]"
    else String.join (parts.map (" " ++ ·)))

/-- The usage line of a command line on which the options `used` were given. -/
def usageWith (spec : Spec) (used : List String) : String :=
  spec.usage (used.eraseDups.map spec.display)

/-- The usage line of a command line on which a flag got a value, after the options `given`. Once
one of the program's options was given, all of them show as one choice. -/
def usageOfFlag (spec : Spec) (name : String) (given : List String) : String :=
  let chosen := !given.isEmpty
  let isOption := spec.options.any (·.name == name)
  spec.usage ((if chosen && isOption then [] else [spec.display name]) ++
    (if chosen then [spec.choice] else []))

end Spec

/-- Why a command line cannot be run. -/
inductive LineFault where
  | unexpectedArgument (argument : String) (similar : Option String) (used : List String)
  | unexpectedValue (option value : String) (given : List String)
  | repeated (option : String)
  | missingValue (option : String)
  deriving DecidableEq, Repr

/-- The wording of a command line fault. What was given is quoted as plain text. -/
def LineFault.message (spec : Spec) : LineFault → String
  | unexpectedArgument argument similar used =>
    "error: unexpected argument '" ++ Text.plain argument ++ "' found\n\n" ++
      (match similar with
      | some name => "  tip: a similar argument exists: '--" ++ name ++ "'\n\n"
      | none => "") ++
      spec.usageWith used ++ "\n\n" ++ more
  | unexpectedValue option value given =>
    "error: unexpected value '" ++ Text.plain value ++ "' for '" ++ spec.display option ++
      "' found; no more were expected\n\n" ++ spec.usageOfFlag option given ++ "\n\n" ++ more
  | repeated option =>
    "error: the argument '" ++ spec.display option ++ "' cannot be used multiple times\n\n" ++
      spec.usage [] ++ "\n\n" ++ more
  | missingValue option =>
    "error: a value is required for '" ++ spec.display option ++ "' but none was supplied\n\n" ++
      more
where
  more := "For more information, try '--help'.\n"

/-- What a command line asks for instead of a run. -/
inductive Inquiry where
  | help
  | version
  deriving DecidableEq, Repr

/-- What comes of reading a command line: a run, an inquiry, or a fault. -/
inductive Reading (α : Type) where
  | run (value : α)
  | inquiry (inquiry : Inquiry)
  | fault (fault : LineFault)
  deriving DecidableEq, Repr

/-- The options read so far, with their values, and the valued option that was named last, with
its value once that was read. -/
structure Progress where
  given : List (String × Option String) := []
  waiting : Option (String × Option String) := none
  deriving DecidableEq, Repr

namespace Progress

def names (p : Progress) : List String :=
  p.given.map (·.1)

def add (p : Progress) (name : String) (value : Option String) : Except LineFault Progress :=
  if p.names.contains name then .error (.repeated name)
  else .ok { p with given := p.given ++ [(name, value)] }

def settle (p : Progress) : Except LineFault Progress :=
  match p.waiting with
  | none => .ok p
  | some (name, none) => .error (.missingValue name)
  | some (name, some value) => add { p with waiting := none } name (some value)

/-- The names of the options that count as given once the one that waits was added. One that was
given before counts no more. -/
def settledNames (p : Progress) : List String :=
  match p.waiting with
  | some (name, some _) =>
    if p.names.contains name then p.names.erase name else p.names ++ [name]
  | _ => p.names

/-- An inquiry, once nothing waits. -/
def inquire (p : Progress) (inquiry : Inquiry) : Reading Progress :=
  match p.settle with
  | .ok _ => .inquiry inquiry
  | .error fault => .fault fault

/-- The result of adding something. -/
def ofExcept : Except LineFault Progress → Reading Progress
  | .ok p => .run p
  | .error fault => .fault fault

/-- One long option, by its name and the value after its `=`. -/
def long (spec : Spec) (name : String) (value : Option String) (p : Progress) :
    Reading Progress :=
  let known := spec.options.find? (·.name == name)
  let isInquiry := name == "help" || name == "version"
  match known, value with
  | some { placeholder := some _, .. }, some value =>
    ofExcept do (← p.settle).add name (some value)
  | some { placeholder := some _, .. }, none =>
    ofExcept do return { (← p.settle) with waiting := some (name, none) }
  | some _, none => ofExcept do (← p.settle).add name none
  | some _, some value => .fault (.unexpectedValue name value p.names)
  | none, value =>
    if isInquiry then
      match value with
      | none => p.inquire (if name = "help" then .help else .version)
      | some value => .fault (.unexpectedValue name value p.names)
    else
      let similar := mostSimilar? name (spec.options.map (·.name) ++ ["help", "version"])
      .fault (.unexpectedArgument ("--" ++ name) similar (p.settledNames ++ similar.toList))

/-- One argument that is no value. -/
def argument (spec : Spec) (text : String) (p : Progress) : Reading Progress :=
  match text.toList with
  | '-' :: '-' :: cs =>
    let name := String.ofList (cs.takeWhile (· != '='))
    match cs.dropWhile (· != '=') with
    | [] => p.long spec name none
    | _ :: value => p.long spec name (some (String.ofList value))
  | '-' :: 'h' :: _ => p.inquire .help
  | '-' :: 'V' :: _ => p.inquire .version
  | '-' :: c :: _ => .fault (.unexpectedArgument (String.ofList ['-', c]) none [])
  | _ => .fault (.unexpectedArgument text none [])

/-- The rest of a command line. After a lone `--` nothing is an option. -/
def read (spec : Spec) (p : Progress) : List String → Reading Progress
  | [] => ofExcept p.settle
  | text :: rest =>
    match p.waiting with
    | some (name, none) => read spec { p with waiting := some (name, some text) } rest
    | _ =>
      if text = "--" then
        match rest with
        | [] => ofExcept p.settle
        | text :: _ => .fault (.unexpectedArgument text none [])
      else
        match p.argument spec text with
        | .run p => read spec p rest
        | .inquiry inquiry => .inquiry inquiry
        | .fault fault => .fault fault

end Progress

/-- The options of a command line, with their values. -/
def Spec.read (spec : Spec) (arguments : List String) :
    Reading (List (String × Option String)) :=
  match Progress.read spec {} arguments with
  | .run p => .run p.given
  | .inquiry inquiry => .inquiry inquiry
  | .fault fault => .fault fault

/-! ### Help -/

/-- What all programs say of themselves. -/
def about : String :=
  "Judge protocol runtime for checkers, test generators and valuers"

def version : String := "0.1.0"

/-- A list of options and what they do, in two columns. -/
def columns (rows : List (String × String)) : String :=
  let width := (rows.map fun (left, _) => left.length).foldl max 0
  String.join (rows.map fun (left, right) =>
    left ++ String.ofList (List.replicate (width - left.length) ' ') ++ "  " ++ right ++ "\n")

def Spec.help (spec : Spec) : String :=
  about ++ "\n\n" ++ spec.usage [] ++ "\n\nOptions:\n" ++
    columns ((spec.options.map fun o => ("      " ++ spec.display o.name, o.help)) ++
      [("  -h, --help", "Print help"), ("  -V, --version", "Print version")])

def Inquiry.answer (spec : Spec) : Inquiry → String
  | help => spec.help
  | version => spec.versionName ++ " " ++ Command.version ++ "\n"

end Jury.Command
