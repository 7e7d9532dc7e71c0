import RestScaffold.Command.Arguments

/-! # Commands

A command writes a starter manifest, generates the files that a manifest asks for, or checks that
they could be generated.
-/
namespace RestScaffold

structure GenerateOptions where
  config : Path
  /-- In place of the output directory of the manifest. -/
  output : Option Path
  /-- In place of the layout of the manifest. -/
  router : Option Layout
  /-- Shows the files without writing them. -/
  dryRun : Bool
  deriving DecidableEq, Repr

inductive Command where
  | init (directory : Path) (force : Bool)
  | generate (options : GenerateOptions)
  | check (config : Path)
  deriving DecidableEq, Repr

inductive Request where
  | version
  | run (command : Command)
  deriving DecidableEq, Repr

/-- The options that come before the command, and that may come after it as well. -/
def commonOptions : List CommandOption := [.verbose]

def readPathText (text : String) : Except UsageError Path :=
  if text.isEmpty then .error .emptyPath else .ok ⟨text⟩

def readLayoutText (text : String) : Except UsageError Layout :=
  match Layout.ofName? text with
  | some layout => .ok layout
  | none => .error (.unknownLayout text)

def requireNoOperands : List String → Except UsageError Unit
  | [] => .ok ()
  | text :: _ => .error (.extraOperand text)

namespace Command

def configOf (given : Arguments) : Except UsageError Path :=
  readPathText ((given.value? .config).getD manifestFile)

def directoryOf : List String → Except UsageError Path
  | [] => .ok ⟨"."⟩
  | [text] => readPathText text
  | _ :: text :: _ => .error (.extraOperand text)

def initOf (args : List String) : Except UsageError Command := do
  let given ← readArguments (.force :: commonOptions) none .empty args
  return .init (← directoryOf given.operands) (given.has .force)

def generateOf (args : List String) : Except UsageError Command := do
  let known := .config :: .output :: .router :: .dryRun :: commonOptions
  let given ← readArguments known none .empty args
  requireNoOperands given.operands
  return .generate ⟨← configOf given, ← (given.value? .output).mapM readPathText,
    ← (given.value? .router).mapM readLayoutText, given.has .dryRun⟩

def checkOf (args : List String) : Except UsageError Command := do
  let given ← readArguments (.config :: commonOptions) none .empty args
  requireNoOperands given.operands
  return .check (← configOf given)

/-- A command and its arguments. -/
def ofArguments (name : String) (args : List String) : Except UsageError Command :=
  match name with
  | "init" => initOf args
  | "generate" => generateOf args
  | "check" => checkOf args
  | _ => .error (.unknownCommand name)

end Command

namespace Request

/-- The options before a command, of which the one that asks for the version is answered at once. -/
def ofArguments : List String → Except UsageError Request
  | [] => .error .noCommand
  | arg :: rest =>
    match Argument.ofText arg with
    | .operand name => .run <$> Command.ofArguments name rest
    | argument => do
      let mentioned ← argument.mention (.version :: commonOptions)
      if mentioned.settings.any (·.option == .version) then return .version
      else ofArguments rest

end Request
end RestScaffold
