import Typings.Parser
import Typings.Text.Copies
import Typings.Text.Digit
import Typings.Text.Quoted

/-!
# Options

The command line has one input and a few options in any order. An option is known by its spellings;
a long one may be cut short as long as it is clear, and takes its value after an equals sign or
from the next argument. Short options may stand together in one argument, up to one that takes the
rest of it as its value. After two dashes no argument is an option.
-/

namespace Typings

/-! ## Flags -/

inductive Flag where
  | help
  | dump
  | output
  | parser
  | indent
  | verbose
  deriving DecidableEq, Repr

namespace Flag

def spellings : Flag → List String
  | .help => ["-h", "--help"]
  | .dump => ["--dump"]
  | .output => ["-o", "--output"]
  | .parser => ["--flow-bin"]
  | .indent => ["--indent"]
  | .verbose => ["-v", "--verbose"]

/-- All options, in the order of the help. -/
def all : List Flag := [.help, .dump, .output, .parser, .indent, .verbose]

/-- All spellings with their options. -/
def table : List (String × Flag) :=
  all.flatMap fun flag => flag.spellings.map (·, flag)

def ofSpelling? (spelling : String) : Option Flag := table.lookup spelling

/-- The name of an option in messages. -/
def label (flag : Flag) : String := "/".intercalate flag.spellings

def takesValue : Flag → Bool
  | .output | .parser | .indent => true
  | .help | .dump | .verbose => false

end Flag

/-! ## Errors -/

/-- Why arguments are refused. -/
inductive UsageError where
  | ambiguous (argument : String) (candidates : List String)
  | ignoredValue (flag : Flag) (value : String)
  | missingValue (flag : Flag)
  | invalidInteger (flag : Flag) (value : String)
  | inputMissing
  | unrecognized (arguments : List String)
  deriving DecidableEq, Repr

def UsageError.message : UsageError → String
  | .ambiguous argument candidates =>
    "ambiguous option: " ++ argument ++ " could match " ++ ", ".intercalate candidates
  | .ignoredValue flag value =>
    "argument " ++ flag.label ++ ": ignored explicit argument " ++ Text.quoted value
  | .missingValue flag => "argument " ++ flag.label ++ ": expected one argument"
  | .invalidInteger flag value =>
    "argument " ++ flag.label ++ ": invalid int value: " ++ Text.quoted value
  | .inputMissing => "the following arguments are required: input"
  | .unrecognized arguments => "unrecognized arguments: " ++ " ".intercalate arguments

/-- Why there is nothing to do: the help was asked for, or the arguments are refused. -/
inductive Refusal where
  | help
  | usage (e : UsageError)
  deriving DecidableEq, Repr

/-! ## Words -/

/-- What an argument is. An option may have a value attached to it in the same argument. -/
inductive Word where
  | plain (text : String)
  | separator
  | option (flag : Flag) (long : Bool) (attached : Option String)
  | unknown (text : String)
  deriving DecidableEq, Repr

/-- The characters before and after the first equals sign, if there is one. -/
def cutAtEquals (cs : List Char) : List Char × Option (List Char) :=
  match cs.dropWhile (· != '=') with
  | _ :: value => (cs.takeWhile (· != '='), some value)
  | [] => (cs, none)

/-- Whether an argument is written like a negative number. A line feed at its end does not count. -/
def isNegativeNumber (cs : List Char) : Bool :=
  let cs := if cs.getLast? = some '\n' then cs.dropLast else cs
  let isDigit c := (Text.digitValue? c).isSome
  match cs with
  | '-' :: number =>
    match number.dropWhile isDigit with
    | [] => !number.isEmpty
    | '.' :: fraction => !fraction.isEmpty && fraction.all isDigit
    | _ => false
  | _ => false

/-- The options that a long argument may be short for. -/
def longCandidates (cs : List Char) : List (String × Flag) :=
  Flag.table.filter fun (spelling, _) => (cutAtEquals cs).1.isPrefixOf spelling.toList

/-- What an argument with two dashes is that is no full spelling. -/
def classifyLong (text : String) : Except UsageError Word :=
  let cs := text.toList
  match longCandidates cs with
  | [] => .ok (if cs.contains ' ' then .plain text else .unknown text)
  | [(_, flag)] =>
    .ok (.option flag true ((cutAtEquals cs).2.map String.ofList))
  | candidates => .error (.ambiguous text (candidates.map (·.1)))

/-- What an argument with one dash is that is no full spelling. -/
def classifyShort (text : String) : Word :=
  let cs := text.toList
  match Flag.ofSpelling? (String.ofList (cs.take 2)) with
  | some flag => .option flag false (some (String.ofList (cs.drop 2)))
  | none => if isNegativeNumber cs || cs.contains ' ' then .plain text else .unknown text

def classify (text : String) : Except UsageError Word :=
  match text.toList with
  | '-' :: rest =>
    let long := rest.head? == some '-'
    match Flag.ofSpelling? text with
    | some flag => .ok (.option flag long none)
    | none =>
      if rest.isEmpty then .ok (.plain text)
      else
        let (spelling, value) := cutAtEquals ('-' :: rest)
        match Flag.ofSpelling? (String.ofList spelling), value with
        | some flag, some value => .ok (.option flag long (some (String.ofList value)))
        | _, _ => if long then classifyLong text else .ok (classifyShort text)
  | _ => .ok (.plain text)

def classifyAll : List String → Except UsageError (List Word)
  | [] => .ok []
  | text :: rest =>
    if text = "--" then .ok (.separator :: rest.map .plain)
    else do
      let word ← classify text
      return word :: (← classifyAll rest)

/-! ## Clusters -/

/-- The options in one argument: those that are complete, with their values, then possibly one that
takes its value from the next argument. -/
structure Cluster where
  complete : List (Flag × String)
  open? : Option Flag
  deriving DecidableEq, Repr

/-- Adds a complete option in front. -/
def Cluster.cons (flag : Flag) (c : Cluster) : Cluster :=
  { c with complete := (flag, "") :: c.complete }

/-- The cluster of one option with nothing attached to it. -/
def Cluster.single (flag : Flag) : Cluster :=
  if flag.takesValue then ⟨[], some flag⟩ else ⟨[(flag, "")], none⟩

/-- Takes apart the characters attached to a short option: the value of the option if it has one,
otherwise the next short option with what is attached to that. -/
def Cluster.ofShort (flag : Flag) : List Char → Except UsageError Cluster
  | [] => .ok (Cluster.single flag)
  | c :: rest =>
    if flag.takesValue then .ok ⟨[(flag, String.ofList (c :: rest))], none⟩
    else
      match Flag.ofSpelling? (String.ofList ['-', c]) with
      | none => .error (.ignoredValue flag (String.ofList (c :: rest)))
      | some next => do return (← Cluster.ofShort next rest).cons flag

/-- Takes apart an argument that starts with an option. An empty value, or a value of a long option,
must belong to that option. -/
def Cluster.ofOption (flag : Flag) (long : Bool) :
    Option String → Except UsageError Cluster
  | none => .ok (Cluster.single flag)
  | some value =>
    if flag.takesValue then .ok ⟨[(flag, value)], none⟩
    else if long ∨ value = "" then .error (.ignoredValue flag value)
    else Cluster.ofShort flag value.toList

/-! ## Options -/

/-- What the command line asks for. The parser and the indentation are absent if their options were
given without a value. -/
structure Options where
  input : String
  dump : Bool
  output : Option String
  parser : Option String
  indent : Option Int
  verbose : Bool
  deriving DecidableEq, Repr

/-- What the arguments so far ask for. -/
structure Draft where
  input : Option String := none
  dump : Bool := false
  output : Option String := none
  parser : Option String := some defaultParser
  indent : Option Int := some 2
  verbose : Bool := false
  extras : List String := []
  deriving Repr

/-- The value that is meant by a written one. Two dashes say that there is none. -/
def meantValue (written : String) : Option String :=
  if written = "--" then none else some written

/-- Reads the value of an option that must be an integer. -/
def readIntegerValue (flag : Flag) (value : String) : Except Refusal Int :=
  match Text.readInt? value with
  | some n => .ok n
  | none => .error (.usage (.invalidInteger flag value))

/-- Sets an option. Of several settings the last one counts. -/
def Draft.set (d : Draft) (flag : Flag) (written : String) : Except Refusal Draft :=
  match flag with
  | .help => .error .help
  | .dump => .ok { d with dump := true }
  | .output => .ok { d with output := meantValue written }
  | .parser => .ok { d with parser := meantValue written }
  | .indent => do
    let indent ← (meantValue written).mapM (readIntegerValue .indent)
    return { d with indent }
  | .verbose => .ok { d with verbose := true }

/-- Sets options one after the other. -/
def Draft.setAll (d : Draft) (settings : List (Flag × String)) : Except Refusal Draft :=
  settings.foldlM (fun d (flag, value) => d.set flag value) d

/-- Adds an argument that has no meaning. -/
def Draft.addExtra (d : Draft) (text : String) : Draft :=
  { d with extras := d.extras ++ [text] }

/-- Goes through the words from left to right. The first plain word is the input, together with a
separator before or after it. -/
def Draft.read (d : Draft) : List Word → Except Refusal Draft
  | [] => .ok d
  | .unknown text :: rest => (d.addExtra text).read rest
  | .plain text :: rest =>
    match d.input, rest with
    | none, .separator :: rest => { d with input := some text }.read rest
    | none, rest => { d with input := some text }.read rest
    | some _, rest => (d.addExtra text).read rest
  | .separator :: rest =>
    match d.input, rest with
    | none, .plain text :: rest => { d with input := some text }.read rest
    | _, rest => (d.addExtra "--").read rest
  | .option flag long attached :: rest => do
    let cluster ← (Cluster.ofOption flag long attached).mapError .usage
    match cluster.open? with
    | none =>
      let d ← d.setAll cluster.complete
      d.read rest
    | some last =>
      match rest with
      | .plain value :: rest =>
        let d ← d.setAll (cluster.complete ++ [(last, value)])
        d.read rest
      | _ => .error (.usage (.missingValue last))

/-- The options, if there is an input and nothing without a meaning. -/
def Draft.finish (d : Draft) : Except Refusal Options :=
  match d.input, d.extras with
  | none, _ => .error (.usage .inputMissing)
  | some input, [] => .ok ⟨input, d.dump, d.output, d.parser, d.indent, d.verbose⟩
  | some _, extras => .error (.usage (.unrecognized extras))

def Options.ofArguments (arguments : List String) : Except Refusal Options := do
  let words ← (classifyAll arguments).mapError .usage
  let d ← ({} : Draft).read words
  d.finish

/-- The number of blanks to indent by, none for a number below zero. It must be there, and so many
blanks must be possible. -/
def Options.indentWidth (o : Options) : Except Malformed Nat :=
  match o.indent with
  | none => .error .mismatch
  | some n => Text.copyCount " " n

end Typings
