import LogicLexer.Text.Quoted
import LogicLexer.Token.Kind

/-!
# Options of the command line

The arguments are read from left to right. A long option is named in full and may hold its value
behind `=`; short options may be joined, and the last of them may hold its value, with or without
`=`. Otherwise the value is the next argument, which must not look like an option. The first
argument that is wrong decides the error, and a request for help or the version before it goes
first. Only then is it asked whether the options fit together.
-/

namespace LogicLexer.CommandLine

/-- Options that are given or not. -/
inductive Flag where
  /-- Step through the tokens from a menu. -/
  | interactive
  /-- Print the symbol table. -/
  | table
  /-- Report errors. -/
  | diagnostics
  /-- Log what is going on, which is not part of the output. -/
  | verbose
deriving DecidableEq

/-- Options with a value. -/
inductive Setting where
  /-- The text to scan. -/
  | eval
  /-- The kinds of tokens to print. -/
  | only
deriving DecidableEq

/-- What can be asked for instead of a run. -/
inductive Request where
  /-- The help. -/
  | help
  /-- The version. -/
  | version
deriving DecidableEq

/-- What the name of an option stands for. -/
inductive Meaning where
  /-- Something is asked for instead of a run. -/
  | request (request : Request)
  /-- A flag is set. -/
  | flag (flag : Flag)
  /-- A value follows. -/
  | setting (setting : Setting)

/-- The meaning of a long name. -/
def longMeaning? : String → Option Meaning
  | "help" => some (.request .help)
  | "version" => some (.request .version)
  | "interactive" => some (.flag .interactive)
  | "table" => some (.flag .table)
  | "diagnostics" => some (.flag .diagnostics)
  | "verbose" => some (.flag .verbose)
  | "eval" => some (.setting .eval)
  | "only" => some (.setting .only)
  | _ => none

/-- The meaning of a short name. -/
def shortMeaning? : Char → Option Meaning
  | 'h' => some (.request .help)
  | 'V' => some (.request .version)
  | 'i' => some (.flag .interactive)
  | 'e' => some (.setting .eval)
  | _ => none

/-- What can be wrong with the arguments. -/
inductive UsageError where
  /-- There is no option of that name. -/
  | unknownOption (name : String)
  /-- An option needs a value and has none. -/
  | missingValue (setting : Setting)
  /-- A flag has a value. -/
  | unexpectedValue (name : String)
  /-- A flag is given twice. -/
  | repeatedFlag (flag : Flag)
  /-- The text to scan is given twice. -/
  | repeatedText
  /-- A second file is named. -/
  | secondFile (name : String)
  /-- The name of a file is empty. -/
  | emptyFile
  /-- A kind is asked for that does not exist. -/
  | unknownKind (error : UnknownKind)
  /-- Both a file and a text are given. -/
  | fileAndText

/-- What the arguments ask for, apart from help and the version. -/
structure Options where
  /-- The file to scan. -/
  file : Option String := none
  /-- The text to scan. -/
  eval : Option String := none
  /-- The kinds of tokens to print; none are all. -/
  only : List Kind := []
  /-- The flags that are set. -/
  flags : List Flag := []

/-- Why there are no options. -/
inductive Stop where
  /-- Something is asked for instead of a run. -/
  | request (request : Request)
  /-- The arguments are wrong. -/
  | usage (error : UsageError)

namespace Options

/-- Whether a flag is set. -/
def has (o : Options) (flag : Flag) : Bool :=
  o.flags.contains flag

/-- Sets a flag. -/
def setFlag (o : Options) (flag : Flag) : Except Stop Options :=
  if o.has flag then .error (.usage (.repeatedFlag flag))
  else .ok { o with flags := o.flags ++ [flag] }

/-- The kinds in a list of names with commas between them. -/
def readKinds (names : String) : Except UnknownKind (List Kind) :=
  ((names.toList.splitOn ',').map String.ofList).mapM Kind.parse

/-- Sets the value of an option. -/
def setValue (o : Options) (value : String) : Setting → Except Stop Options
  | .eval =>
    if o.eval.isSome then .error (.usage .repeatedText) else .ok { o with eval := some value }
  | .only =>
    match readKinds value with
    | .ok kinds => .ok { o with only := o.only ++ kinds }
    | .error e => .error (.usage (.unknownKind e))

/-- Names the file. -/
def setFile (o : Options) (name : String) : Except Stop Options :=
  if o.file.isSome then .error (.usage (.secondFile name))
  else if name.isEmpty then .error (.usage .emptyFile)
  else .ok { o with file := some name }

/-- Reads a long option behind its two hyphens: the options then, and which of them waits for the
next argument as its value. -/
def readLong (o : Options) (text : List Char) : Except Stop (Options × Option Setting) :=
  let name := String.ofList (text.takeWhile (· != '='))
  let value? := (text.dropWhile (· != '=')).tail?.map String.ofList
  match longMeaning? name, value? with
  | none, _ => .error (.usage (.unknownOption name))
  | some (.setting s), some value => do return (← o.setValue value s, none)
  | some (.setting s), none => .ok (o, some s)
  | some _, some _ => .error (.usage (.unexpectedValue name))
  | some (.flag f), none => do return (← o.setFlag f, none)
  | some (.request r), none => .error (.request r)

/-- Reads joined short options behind their hyphen: the options then, and which of them waits for
the next argument as its value. -/
def readShort (o : Options) : List Char → Except Stop (Options × Option Setting)
  | [] => .ok (o, none)
  | c :: cs =>
    match shortMeaning? c with
    | none => .error (.usage (.unknownOption (String.singleton c)))
    | some (.request r) => .error (.request r)
    | some (.flag f) => do readShort (← o.setFlag f) cs
    | some (.setting s) =>
      match cs with
      | [] => .ok (o, some s)
      | '=' :: value => do return (← o.setValue (String.ofList value) s, none)
      | value => do return (← o.setValue (String.ofList value) s, none)

/-- Whether an argument cannot be the value of the option before it. A hyphen alone can. -/
def looksLikeOption (argument : String) : Bool :=
  argument.toList.head? == some '-' && argument != "-"

/-- Reads the arguments, given the options before them and which of those waits for its value. -/
def readFrom (o : Options) : Option Setting → List String → Except Stop Options
  | none, [] => .ok o
  | some s, [] => .error (.usage (.missingValue s))
  | some s, value :: rest =>
    if looksLikeOption value then .error (.usage (.missingValue s))
    else do readFrom (← o.setValue value s) none rest
  | none, argument :: rest =>
    if looksLikeOption argument then
      match argument.toList.drop 1 with
      | ['-'] => rest.foldlM setFile o
      | '-' :: text => do
        let (o, waiting) ← o.readLong text
        o.readFrom waiting rest
      | text => do
        let (o, waiting) ← o.readShort text
        o.readFrom waiting rest
    else do readFrom (← o.setFile argument) none rest

/-- The options that the arguments give, if they fit together. -/
def read (arguments : List String) : Except Stop Options := do
  let o ← readFrom {} none arguments
  if o.file.isSome && o.eval.isSome then .error (.usage .fileAndText) else .ok o

end Options

/-- The name of a flag in messages. -/
def Flag.name : Flag → String
  | .interactive => "--interactive"
  | .table => "--table"
  | .diagnostics => "--diagnostics"
  | .verbose => "--verbose"

/-- The name of an option with a value in messages. -/
def Setting.name : Setting → String
  | .eval => "--eval"
  | .only => "--only"

/-- What is said about wrong arguments. -/
def UsageError.message : UsageError → String
  | unknownOption name => "unknown option " ++ Text.quoted name
  | missingValue setting => setting.name ++ " needs a value"
  | unexpectedValue name => "--" ++ name ++ " takes no value"
  | repeatedFlag flag => flag.name ++ " is given twice"
  | repeatedText => "--eval is given twice"
  | secondFile name => "unexpected argument " ++ Text.quoted name
  | emptyFile => "the name of the file is empty"
  | unknownKind error => error.message
  | fileAndText => "a file and --eval exclude each other"

end LogicLexer.CommandLine
