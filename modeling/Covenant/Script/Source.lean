import Covenant.Error.Basic
import Covenant.Script.Statement
import Covenant.Text.Alphanumeric

/-!
# Compiling sources

A source is a list of contracts and functions, read line by line. Blank lines and what stands behind
`//` do not count. A contract holds blocks with declared inputs and methods, a function holds
statements.

```text
contract Transfer {
    data {
        Amount int
        Comment string optional
    }
    action {
        insert history amount=$amount
        result done
    }
}
```
-/

namespace Covenant.Script

/-- The part of a line before the comment. -/
def beforeComment : List Char → List Char
  | [] => []
  | '/' :: '/' :: _ => []
  | c :: rest => c :: beforeComment rest

/-- What counts of a line. -/
def content (line : List Char) : List Char :=
  Text.trim (beforeComment line)

/-- A character of a name. -/
def isNameChar (c : Char) : Bool :=
  Text.isAlphanumeric c || c == '_'

/-- The name in a header, which ends with an opening brace. -/
def headerName (line : Nat) (header : List Char) : Except CompileError String :=
  let name := Text.trim header.dropLast
  if header.getLast? == some '\x7b' && !name.isEmpty && name.all isNameChar then
    .ok (String.ofList name)
  else
    .error (.malformed line ("expected `NAME \x7b`, got `" ++ String.ofList header ++ "`"))

/-- The input that a line of a data block declares. -/
def readField (line : Nat) (text : List Char) : Except CompileError FieldDeclaration :=
  match (Text.words text).map String.ofList with
  | [name, typeName] => .ok ⟨name, typeName, false⟩
  | [name, typeName, "optional"] => .ok ⟨name, typeName, true⟩
  | _ => .error (.malformed line ("invalid field declaration `" ++ String.ofList text ++ "`"))

/-- The block that a line stands in. -/
inductive Block where
  | top
  | contract
  | data
  | method (name : String)
  deriving DecidableEq, Repr

/-- What has been read: the units, the open one first, and the block that is open. -/
structure Progress where
  /-- The units, newest first. -/
  units : List SourceUnit
  /-- The open block. -/
  block : Block

/-- Changes the open unit. -/
def Progress.updateUnit (progress : Progress) (f : SourceUnit → SourceUnit) : Progress :=
  match progress.units with
  | [] => progress
  | unit :: rest => { progress with units := f unit :: rest }

/-- A method with this name is there, and holds the statements that it held before. -/
def openMethod (name : String) (methods : Program) : Program :=
  Dict.insert name ((Dict.find? name methods).getD []) methods

/-- Adds a statement to a method. -/
def addStatement (name : String) (statement : Statement) (methods : Program) : Program :=
  Dict.insert name ((Dict.find? name methods).getD [] ++ [statement]) methods

/-- The contracts that a unit uses with one more statement. -/
def addUsed (statement : Statement) (used : List String) : List String :=
  match statement with
  | .call target _ => Dict.insertKey target used
  | _ => used

/-- A unit without anything in it. -/
def emptyUnit (name : String) (kind : UnitKind) : SourceUnit :=
  ⟨name, kind, [], [], []⟩

/-- A line outside of every unit opens one. -/
def readTop (line : Nat) (text : List Char) (progress : Progress) :
    Except CompileError Progress :=
  match Text.afterStart? "contract ".toList text with
  | some header => do
    let name ← headerName line header
    .ok ⟨emptyUnit name .contract :: progress.units, .contract⟩
  | none =>
    match Text.afterStart? "func ".toList text with
    | some header => do
      let name ← headerName line header
      .ok ⟨emptyUnit name .function :: progress.units, .method "body"⟩
    | none => .error (.malformed line "expected `contract` or `func`")

/-- A line of a contract closes it, or opens a data block or a method. -/
def readInContract (line : Nat) (text : List Char) (progress : Progress) :
    Except CompileError Progress :=
  if text == ['\x7d'] then .ok { progress with block := .top }
  else if text == "data \x7b".toList then .ok { progress with block := .data }
  else do
    let name ← headerName line text
    let taken := progress.units.head?.any fun unit => Dict.has name unit.methods
    if taken then .error (.duplicate name)
    else
      .ok { progress.updateUnit fun unit => { unit with methods := openMethod name unit.methods }
            with block := .method name }

/-- A line of a data block closes it or declares an input. -/
def readInData (line : Nat) (text : List Char) (progress : Progress) :
    Except CompileError Progress :=
  if text == ['\x7d'] then .ok { progress with block := .contract }
  else do
    let field ← readField line text
    .ok (progress.updateUnit fun unit => { unit with fields := unit.fields ++ [field] })

/-- The block behind a method of the open unit: a function ends with its body. -/
def blockAfterMethod (progress : Progress) : Block :=
  match progress.units with
  | ⟨_, .function, _, _, _⟩ :: _ => .top
  | _ => .contract

/-- A line of a method closes it or is a statement. -/
def readInMethod (ecosystem : Int) (method : String) (line : Nat) (text : List Char)
    (progress : Progress) : Except CompileError Progress :=
  if text == ['\x7d'] then
    .ok { progress.updateUnit fun unit => { unit with methods := openMethod method unit.methods }
          with block := blockAfterMethod progress }
  else
    match readStatement ecosystem text with
    | .error reason => .error (.malformed line reason)
    | .ok statement =>
      .ok (progress.updateUnit fun unit =>
        { unit with
          methods := addStatement method statement unit.methods
          used := addUsed statement unit.used })

/-- Reads a line. -/
def readLine (ecosystem : Int) (line : Nat) (text : List Char) (progress : Progress) :
    Except CompileError Progress :=
  if text.isEmpty then .ok progress
  else
    match progress.block with
    | .top => readTop line text progress
    | .contract => readInContract line text progress
    | .data => readInData line text progress
    | .method name => readInMethod ecosystem name line text progress

/-- Reads lines; `line` is the number of the first. -/
def readLines (ecosystem : Int) (line : Nat) : List (List Char) → Progress →
    Except CompileError Progress
  | [], progress => .ok progress
  | text :: rest, progress =>
    match readLine ecosystem line (content text) progress with
    | .error e => .error e
    | .ok progress => readLines ecosystem (line + 1) rest progress

/-- The units of a source, in order. -/
def parse (ecosystem : Int) (source : String) : Except CompileError (List SourceUnit) :=
  let lines := Text.lines source.toList
  match readLines ecosystem 1 lines ⟨[], .top⟩ with
  | .error e => .error e
  | .ok progress =>
    if progress.block = .top then .ok progress.units.reverse
    else .error (.malformed lines.length "unexpected end of source")

/-- The full names of the contracts among the units of an ecosystem. -/
def declaredNames (ecosystem : Int) (units : List SourceUnit) : List String :=
  (units.filter (·.kind = .contract)).map fun unit => ContractName.qualify ecosystem unit.name

/-- Checks units in order: no name is given twice, and every contract that is called is known. -/
def checkUnits (known : String → Bool) (seen : List String) :
    List SourceUnit → Except CompileError Unit
  | [] => .ok ()
  | unit :: rest =>
    if seen.contains unit.name then .error (.duplicate unit.name)
    else
      match unit.used.find? (!known ·) with
      | some target => .error (.unknownObject target)
      | none => checkUnits known (unit.name :: seen) rest

/-- The units of a source. Contracts that it calls are in the source itself or satisfy `isKnown`. -/
def compile (ecosystem : Int) (isKnown : String → Bool) (source : String) :
    Except CompileError (List SourceUnit) :=
  match parse ecosystem source with
  | .error e => .error e
  | .ok units =>
    let declared := declaredNames ecosystem units
    match checkUnits (fun name => declared.contains name || isKnown name) [] units with
    | .error e => .error e
    | .ok () => .ok units

/-- The full names in the headers among some lines; `line` is the number of the first. -/
def namesInLines (ecosystem : Int) (line : Nat) : List (List Char) →
    Except CompileError (List String)
  | [] => .ok []
  | text :: rest =>
    match Text.afterStart? "contract ".toList (content text) with
    | none => namesInLines ecosystem (line + 1) rest
    | some header =>
      match headerName line header with
      | .error e => .error e
      | .ok name =>
        (namesInLines ecosystem (line + 1) rest).map (ContractName.qualify ecosystem name :: ·)

/-- The full names of the contracts that a source declares, found by their headers alone. -/
def contractNames (ecosystem : Int) (source : String) : Except CompileError (List String) :=
  namesInLines ecosystem 1 (Text.lines source.toList)

/-- The functions that every registry holds. -/
def systemFunctions : String :=
  "\nfunc sys_charge_base \x7b\n    charge 1\n\x7d\n\nfunc sys_noop \x7b\n\x7d\n"

end Covenant.Script
