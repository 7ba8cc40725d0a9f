import ModuleGraph.CommandLine.Help
import ModuleGraph.Text.Digit
import ModuleGraph.Text.Quoted

/-!
# Command-line options

Arguments are sorted first, each by itself: words, options and the separator after which all are
words. Then they are consumed from left to right. A long option may be shortened as long as it is
unambiguous, and may carry its value behind an equals sign.

## Main definitions

- `Flag` — the options
- `Options` — what the arguments ask for
- `UsageError`, `UsageError.message` — why arguments are refused
- `Word`, `sortArguments` — the arguments sorted
- `consume` — the arguments consumed
- `Request`, `readArguments` — what the arguments ask for, all told
-/

namespace ModuleGraph.CommandLine

/-- The options. -/
inductive Flag where
  | help
  | out
  | programName
  | print
  | analyze
  | strict
  deriving DecidableEq, Repr

namespace Flag

def spellings : List (String × Flag) :=
  [("-h", help), ("--help", help), ("--out", out), ("--program-name", programName),
    ("--print", print), ("--analyze", analyze), ("--strict", strict)]

def takesValue : Flag → Bool
  | out | programName => true
  | help | print | analyze | strict => false

/-- The name of an option in messages. -/
def title : Flag → String
  | help => "-h/--help"
  | out => "--out"
  | programName => "--program-name"
  | print => "--print"
  | analyze => "--analyze"
  | strict => "--strict"

end Flag

/-- What the arguments ask for. -/
structure Options where
  /-- The file that holds the graph, once it has been named. -/
  graphFile : Option String
  /-- The directory to write to; none if what was given for it is not a value. -/
  out : Option String
  programName : Option String
  print : Bool
  analyze : Bool
  strict : Bool
  deriving DecidableEq, Repr

/-- What no arguments ask for. -/
def Options.default : Options := ⟨none, some "anchor_out", none, false, false, false⟩

/-- Why arguments are refused. -/
inductive UsageError where
  | ambiguous (argument : String) (candidates : List String)
  | missingValue (flag : Flag)
  | unwantedValue (flag : Flag) (value : String)
  | missingGraphFile
  | unrecognized (arguments : List String)
  deriving DecidableEq, Repr

def UsageError.message : UsageError → String
  | ambiguous argument candidates =>
    "ambiguous option: " ++ argument ++ " could match " ++ ", ".intercalate candidates
  | missingValue flag => "argument " ++ flag.title ++ ": expected one argument"
  | unwantedValue flag value =>
    "argument " ++ flag.title ++ ": ignored explicit argument " ++ Text.quoted value
  | missingGraphFile => "the following arguments are required: graph.json"
  | unrecognized arguments => "unrecognized arguments: " ++ " ".intercalate arguments

/-! ### Sorting -/

/-- The argument after which all are words. -/
def separator : String := "--"

/-- An argument, sorted. -/
inductive Word where
  | plain (text : String)
  | separator
  /-- A long option, with the value behind its equals sign. -/
  | long (flag : Flag) (value : Option String)
  /-- The short option for help, with what follows it in the same argument, at once or behind an
  equals sign. -/
  | short (rest : Option String)
  | unknown (text : String)
  deriving DecidableEq, Repr

/-- The text before the first equals sign, and the text after it if there is one. -/
def splitEquals (argument : String) : String × Option String :=
  let cs := argument.toList
  let before := cs.takeWhile (· != '=')
  match cs.drop before.length with
  | [] => (argument, none)
  | _ :: after => (String.ofList before, some (String.ofList after))

def beginsWith (text start : String) : Bool := start.toList.isPrefixOf text.toList

/-- Whether an argument begins with two hyphens. -/
def isLong (argument : String) : Bool := beginsWith argument "--"

/-- An option under a spelling of it. -/
def ofSpelling (spelling : String) (flag : Flag) (value : Option String) : Word :=
  if isLong spelling then .long flag value else .short value

/-- Whether characters form a numeral of at least one digit. -/
def isNumeral (cs : List Char) : Bool :=
  !cs.isEmpty && cs.all fun c => (Text.decimalValue? c).isSome

/-- Characters without a line feed at their end. -/
def withoutFinalNewline (cs : List Char) : List Char :=
  if cs.getLast? = some '\n' then cs.dropLast else cs

/-- Whether an argument is a negative number, which may have a point and digits after it. -/
def isNegativeNumber (argument : String) : Bool :=
  match argument.toList with
  | '-' :: cs =>
    let cs := withoutFinalNewline cs
    let whole := cs.takeWhile (· != '.')
    match cs.drop whole.length with
    | [] => isNumeral whole
    | _ :: fraction => (whole.isEmpty || isNumeral whole) && isNumeral fraction
  | _ => false

/-- The long options that a shortened one may stand for. -/
def candidates (shortened : String) : List (String × Flag) :=
  Flag.spellings.filter fun (spelling, _) => beginsWith spelling shortened

/-- An argument with a hyphen that is no option: a negative number or a text with a space is a
word. -/
def sortStranger (argument : String) : Word :=
  if isNegativeNumber argument || argument.toList.contains ' ' then .plain argument
  else .unknown argument

/-- A long option that is not spelled out. -/
def sortShortened (argument : String) : Except UsageError Word :=
  let (shortened, value) := splitEquals argument
  match candidates shortened with
  | [] => .ok (sortStranger argument)
  | [(_, flag)] => .ok (.long flag value)
  | several => .error (.ambiguous argument (several.map (·.1)))

/-- An argument that begins with one hyphen and goes on with other characters. -/
def sortCluster (argument : String) : Word :=
  let cs := argument.toList
  if cs.take 2 = ['-', 'h'] then .short (some (String.ofList (cs.drop 2)))
  else sortStranger argument

/-- An argument before the separator, sorted. -/
def sortArgument (argument : String) : Except UsageError Word :=
  let (before, value) := splitEquals argument
  if argument = "-" ∨ !beginsWith argument "-" then
    .ok (.plain argument)
  else
    match Flag.spellings.lookup argument, Flag.spellings.lookup before, value with
    | some flag, _, _ => .ok (ofSpelling argument flag none)
    | none, some flag, some value => .ok (ofSpelling before flag (some value))
    | none, _, _ => if isLong argument then sortShortened argument else .ok (sortCluster argument)

/-- The arguments, sorted. After the first separator all are words. -/
def sortArguments : List String → Except UsageError (List Word)
  | [] => .ok []
  | argument :: arguments =>
    if argument = separator then
      .ok (.separator :: arguments.map .plain)
    else do
      let word ← sortArgument argument
      let words ← sortArguments arguments
      return word :: words

/-! ### Consuming -/

/-- Why the arguments ask for nothing. -/
inductive Stop where
  | help
  | refused (error : UsageError)
  deriving DecidableEq, Repr

/-- The options with one more that has no value. -/
def Options.raise (options : Options) : Flag → Options
  | .print => { options with print := true }
  | .analyze => { options with analyze := true }
  | .strict => { options with strict := true }
  | _ => options

/-- The value of an option; the separator is none. -/
def valueOf (text : String) : Option String := if text = separator then none else some text

/-- The options with the value of one more. -/
def Options.assign (options : Options) (flag : Flag) (value : Option String) : Options :=
  match flag with
  | .out => { options with out := value }
  | .programName => { options with programName := value }
  | _ => options

/-- What an option without value does. -/
def raiseFlag (options : Options) (flag : Flag) : Except Stop Options :=
  if flag = .help then .error .help else .ok (options.raise flag)

/-- What the letters behind the short option for help come to: each has to be a short option of its
own. -/
def stopOfLetters : List Char → Stop
  | [] => .help
  | c :: cs =>
    if c = 'h' then stopOfLetters cs
    else .refused (.unwantedValue .help (String.ofList (c :: cs)))

/-- What the short option for help comes to, with what follows it. -/
def stopOfShort : Option String → Stop
  | none => .help
  | some rest =>
    if rest = "" then .refused (.unwantedValue .help rest) else stopOfLetters rest.toList

/-- The options that sorted arguments ask for, and those arguments that nothing wants. -/
def consume (options : Options) (strangers : List String) :
    List Word → Except Stop (Options × List String)
  | [] => .ok (options, strangers.reverse)
  | .plain text :: words =>
    match options.graphFile, words with
    | some _, words => consume options (text :: strangers) words
    | none, .separator :: words => consume { options with graphFile := some text } strangers words
    | none, words => consume { options with graphFile := some text } strangers words
  | .separator :: words =>
    match options.graphFile, words with
    | none, .plain text :: words =>
      consume { options with graphFile := some text } strangers words
    | _, words => consume options (separator :: strangers) words
  | .unknown text :: words => consume options (text :: strangers) words
  | .short rest :: _ => .error (stopOfShort rest)
  | .long flag value :: words =>
    match value, flag.takesValue, words with
    | some value, true, words => consume (options.assign flag (valueOf value)) strangers words
    | some value, false, _ => .error (.refused (.unwantedValue flag value))
    | none, true, .plain value :: words =>
      consume (options.assign flag (valueOf value)) strangers words
    | none, true, _ => .error (.refused (.missingValue flag))
    | none, false, words => do
      let options ← raiseFlag options flag
      consume options strangers words

/-! ### Requests -/

/-- What the arguments ask for, all told: a file to be compiled, with the options. -/
structure Request where
  graphFile : String
  options : Options
  deriving DecidableEq, Repr

/-- What consumed arguments ask for. -/
def toRequest (options : Options) (strangers : List String) : Except Stop Request :=
  match options.graphFile with
  | none => .error (.refused .missingGraphFile)
  | some graphFile =>
    if strangers.isEmpty then .ok ⟨graphFile, options⟩
    else .error (.refused (.unrecognized strangers))

/-- What arguments ask for. -/
def readArguments (arguments : List String) : Except Stop Request :=
  match sortArguments arguments with
  | .error error => .error (.refused error)
  | .ok words =>
    match consume .default [] words with
    | .error stop => .error stop
    | .ok (options, strangers) => toRequest options strangers

end ModuleGraph.CommandLine
