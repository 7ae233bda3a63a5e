import Stencil.Code.Listing
import Stencil.Engine
import Stencil.Template.Outline
import Stencil.Token.Listing

/-!
# The command line

The command reads a template from a file and renders it with the variables that are given, or
shows its tokens, its tree or its code. Templates that it includes are found in the directory of
the file.
-/

namespace Stencil.CommandLine

/-- What the command shows of a template. -/
inductive View where
  | tokens (style : Token.ListingStyle)
  | tree
  | code
  | output

structure Request where
  view : View
  optimize : Bool
  /-- The path of the template. -/
  file : String
  /-- The arguments after the path. -/
  assignments : List String

inductive Command where
  | help
  /-- The path is missing. -/
  | incomplete
  | display (request : Request)

/-- What the command leaves behind. -/
structure Response where
  status : Nat
  output : String
  complaint : String
  /-- The paths at which no file was found. -/
  missing : List String

def isFlag (argument : String) : Bool :=
  argument.toList.head? == some '-'

/-- Flags count wherever they stand; a flag that is not known is passed over. -/
def parse (arguments : List String) : Command :=
  let given := arguments.contains
  if given "--help" || given "-h" then .help
  else
    match arguments.filter (!isFlag ·) with
    | [] => .incomplete
    | file :: assignments =>
        let view :=
          if given "--tokens" then .tokens ⟨!given "--no-color", given "--pretty"⟩
          else if given "--ast" then .tree
          else if given "--bc" || given "--bytecode" then .code
          else .output
        .display ⟨view, !given "--no-optimize", file, assignments⟩

/-- The name and the value of an assignment, on either side of its first equals sign. -/
def assignment? (argument : String) : Option (String × Value) :=
  (Text.cut? ['='] argument.toList).map fun (name, value) =>
    (.ofList name, .text (.ofList value))

def variablesOf (assignments : List String) : Dictionary Value :=
  .ofList (assignments.filterMap assignment?)

def ignored (argument : String) : String :=
  s!"ignoring '{argument}': expected name=value\n"

/-- What is said of arguments that assign nothing. -/
def remarks (assignments : List String) : String :=
  String.join ((assignments.filter (assignment? · |>.isNone)).map ignored)

def usage : String :=
  String.join (List.map (· ++ "\n") [
    "KILN - TTerse template engine",
    "",
    "Usage:",
    "  kiln <file> [name=value ...]   Render a template",
    "  kiln --tokens <file>           Show tokens only (--pretty, --no-color)",
    "  kiln --ast <file>              Show the parsed template",
    "  kiln --bc <file>               Show the compiled bytecode",
    "  kiln --no-optimize ...         Skip the peephole optimizer",
    "  kiln --help, -h                Show this help"])

/-- The directory in which the templates that a file includes are found. -/
def directory (file : String) : String :=
  let parent := Path.parent file
  if parent.isEmpty then (if Path.isAbsolute file then "/" else ".") else parent

namespace Response

def success (output : String) : Response :=
  ⟨0, output, "", []⟩

/-- Says why there is no more output. -/
def failure (output message : String) : Response :=
  ⟨1, output, message ++ "\n", []⟩

def ofExcept : Except String String → Response
  | .ok output => success output
  | .error message => failure "" message

end Response

/-- The paths at which templates were looked for in vain. -/
def sought (directory : String) (log : Array Event) : List String :=
  log.toList.filterMap fun event =>
    match event with
    | .fetch name false => some (Path.join directory name)
    | _ => none

def ofReport (report : Machine.Report) : Response :=
  match report.ending with
  | .finished => .success report.output
  | .failed failure => .failure report.output failure.message
  | .unfinished => .failure report.output "unfinished"

/-- Renders the text of a request. -/
def renderSource (request : Request) (disk : Disk) (source : String) : Response :=
  let standard := Engine.standard
  let engine := { standard with policy := { standard.policy with optimize := request.optimize } }
  let place := directory request.file
  let store := Store.create (.files [place] disk) (.memory [])
  match engine.policy.compile request.file source store with
  | (.error failure, _) => .failure "" failure.message
  | (.ok code, store) =>
      if request.view matches .code then .success code.listing
      else
        let (report, store) := engine.execute code (variablesOf request.assignments) store
        { ofReport report with missing := sought place store.log }

/-- Shows the text of a request. -/
def showSource (request : Request) (disk : Disk) (source : String) : Response :=
  match request.view with
  | .tokens style =>
      .ofExcept (match Token.tokenize .standard request.file source with
        | .ok tokens => .ok (style.render tokens)
        | .error error => .error error.display)
  | .tree =>
      .ofExcept (match Template.parse .standard request.file source with
        | .ok template => .ok (template.outline.render 0 ++ "\n")
        | .error error => .error (Failure.ofParse error).message)
  | .code | .output => renderSource request disk source

def answer (request : Request) (disk : Disk) : Response :=
  let response := match disk.readText request.file with
    | .ok (source, _) => showSource request disk source
    | .error error =>
        { Response.failure "" s!"Failed to read '{request.file}': {error.message}" with
          missing := [request.file] }
  { response with complaint := remarks request.assignments ++ response.complaint }

/-- What the command does with its arguments. -/
def respond (arguments : List String) (disk : Disk) : Response :=
  match parse arguments with
  | .help => .success usage
  | .incomplete => { Response.success usage with status := 1 }
  | .display request => answer request disk

end Stencil.CommandLine
