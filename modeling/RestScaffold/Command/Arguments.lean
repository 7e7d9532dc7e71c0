import RestScaffold.Disk.Path
import RestScaffold.Generation.Layout
import RestScaffold.Manifest.Basic

/-! # Command lines

A command line names a command and then its options and operands in any order. An option has a long
name and maybe a letter, letters can be written in a row, and a value follows its option in the same
argument or as the next one. After two hyphens there are only operands.
-/
namespace RestScaffold

inductive CommandOption where
  | verbose | version | config | output | router | dryRun | force
  deriving DecidableEq, Repr

namespace CommandOption

def long : CommandOption → String
  | verbose => "verbose"
  | version => "version"
  | config => "config"
  | output => "output"
  | router => "router"
  | dryRun => "dry-run"
  | force => "force"

def short? : CommandOption → Option Char
  | verbose => some 'v'
  | version => some 'V'
  | config => some 'c'
  | output => some 'o'
  | _ => none

def takesValue : CommandOption → Bool
  | config => true
  | output => true
  | router => true
  | _ => false

/-- Each further mention makes the program more verbose; any other option is given once. -/
def repeats : CommandOption → Bool
  | verbose => true
  | _ => false

end CommandOption

inductive UsageError where
  | noCommand
  | unknownCommand (name : String)
  | unknownOption (text : String)
  | missingValue (option : CommandOption)
  | unneededValue (option : CommandOption) (value : String)
  | repeatedOption (option : CommandOption)
  | emptyPath
  | unknownLayout (name : String)
  | extraOperand (text : String)
  deriving DecidableEq, Repr

/-- How an option is written with the place of its value. -/
def CommandOption.shown (option : CommandOption) : String :=
  if option.takesValue then "--" ++ option.long ++ " <" ++ option.long.toUpper ++ ">"
  else "--" ++ option.long

def noValueGiven (argument : String) : String :=
  "a value is required for '" ++ argument ++ "' but none was supplied"

def UsageError.message : UsageError → String
  | noCommand => "no command given"
  | unknownCommand name => "unrecognized subcommand '" ++ name ++ "'"
  | unknownOption text => "unexpected argument '" ++ text ++ "' found"
  | missingValue option => noValueGiven option.shown
  | unneededValue option value =>
    "unexpected value '" ++ value ++ "' for '" ++ option.shown ++ "' found; no more were expected"
  | repeatedOption option =>
    "the argument '" ++ option.shown ++ "' cannot be used multiple times"
  | emptyPath => noValueGiven "a path"
  | unknownLayout name =>
    "invalid value '" ++ name ++ "' for '" ++ CommandOption.router.shown ++ "': "
      ++ Layout.unknownName name
  | extraOperand text => "unexpected argument '" ++ text ++ "' found"

/-- What a single argument is, apart from what came before it. -/
inductive Argument where
  /-- One hyphen alone is an operand too. -/
  | operand (text : String)
  /-- Two hyphens. -/
  | separator
  | long (name : String) (value : Option String)
  | shorts (letters : List Char)
  deriving DecidableEq, Repr

/-- A long option up to an equals sign, and the value after it. -/
def Argument.ofLong (cs : List Char) : Argument :=
  .long (String.ofList (cs.takeWhile (· != '=')))
    (match cs.dropWhile (· != '=') with
      | [] => none
      | _ :: value => some (String.ofList value))

def Argument.ofText (s : String) : Argument :=
  match s.toList with
  | ['-'] => .operand s
  | ['-', '-'] => .separator
  | '-' :: '-' :: cs => .ofLong cs
  | '-' :: cs => .shorts cs
  | _ => .operand s

structure Setting where
  option : CommandOption
  value : Option String
  deriving DecidableEq, Repr

structure Arguments where
  settings : List Setting
  operands : List String
  deriving DecidableEq, Repr

namespace Arguments

def empty : Arguments := ⟨[], []⟩

def has (a : Arguments) (option : CommandOption) : Bool :=
  a.settings.any (·.option == option)

def value? (a : Arguments) (option : CommandOption) : Option String :=
  a.settings.findSome? fun s => if s.option = option then s.value else none

def set (a : Arguments) (s : Setting) : Except UsageError Arguments :=
  if a.has s.option && !s.option.repeats then .error (.repeatedOption s.option)
  else .ok { a with settings := a.settings ++ [s] }

def setAll (a : Arguments) (settings : List Setting) : Except UsageError Arguments :=
  settings.foldlM set a

def addOperand (a : Arguments) (text : String) : Arguments :=
  { a with operands := a.operands ++ [text] }

end Arguments

/-- Options of one argument, and the last of them if its value has to come next. -/
structure Mentioned where
  settings : List Setting
  waiting : Option CommandOption
  deriving DecidableEq, Repr

def mentionLong (known : List CommandOption) (name : String) (value : Option String) :
    Except UsageError Mentioned :=
  match known.find? (·.long == name), value with
  | none, _ => .error (.unknownOption ("--" ++ name))
  | some option, some text =>
    if option.takesValue then .ok ⟨[⟨option, some text⟩], none⟩
    else .error (.unneededValue option text)
  | some option, none =>
    if option.takesValue then .ok ⟨[], some option⟩ else .ok ⟨[⟨option, none⟩], none⟩

/-- What is left of a row of letters is the value of an option that takes one, less an equals sign
in front. Nothing is read after the letter that asks for the version. -/
def mentionShorts (known : List CommandOption) : List Char → Except UsageError Mentioned
  | [] => .ok ⟨[], none⟩
  | c :: rest =>
    match known.find? (·.short? == some c) with
    | none => .error (.unknownOption (String.ofList ['-', c]))
    | some .version => .ok ⟨[⟨.version, none⟩], none⟩
    | some option =>
      if option.takesValue then
        match rest with
        | [] => .ok ⟨[], some option⟩
        | '=' :: value => .ok ⟨[⟨option, some (String.ofList value)⟩], none⟩
        | value => .ok ⟨[⟨option, some (String.ofList value)⟩], none⟩
      else do
        let more ← mentionShorts known rest
        return ⟨⟨option, none⟩ :: more.settings, more.waiting⟩

/-- The options of one argument, which has to have some. -/
def Argument.mention (known : List CommandOption) : Argument → Except UsageError Mentioned
  | long name value => mentionLong known name value
  | shorts letters => mentionShorts known letters
  | operand text => .error (.extraOperand text)
  | separator => .error (.extraOperand "--")

/-- Reads the arguments of a command. An option may wait for its value, which is an operand. -/
def readArguments (known : List CommandOption) :
    Option CommandOption → Arguments → List String → Except UsageError Arguments
  | none, given, [] => .ok given
  | some option, _, [] => .error (.missingValue option)
  | waiting, given, arg :: rest =>
    match waiting, Argument.ofText arg with
    | some option, .operand text => do
      readArguments known none (← given.set ⟨option, some text⟩) rest
    | some option, _ => .error (.missingValue option)
    | none, .operand text => readArguments known none (given.addOperand text) rest
    | none, .separator => .ok { given with operands := given.operands ++ rest }
    | none, argument => do
      let mentioned ← argument.mention known
      readArguments known mentioned.waiting (← given.setAll mentioned.settings) rest

end RestScaffold
