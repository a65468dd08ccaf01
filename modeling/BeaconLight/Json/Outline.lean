import BeaconLight.Json.Lexer

/-!
# The outline of a JSON text

An `Outline` is what a text says as far as its first fault: the tree of its values, with
numbers and strings as they are spelled. Reading the outline in the order of the text meets
the fault where reading the text would have met it, so a reader that looks for certain
members can report what is wrong with one of them although the text ends in a fault further
on.

`outline` builds the tree with a stack of the arrays and objects that are open, one token at
a time.
-/

namespace BeaconLight.Json

/-- A JSON text as far as its first fault. An array or object that is not `closed` ends in
the fault. -/
inductive Outline
  | fault
  | null
  | bool (value : Bool)
  | number (literal : Literal)
  | string (raw : List UInt8)
  | array (items : List Outline) (closed : Bool)
  | object (members : List (List UInt8 × Outline)) (closed : Bool)
  deriving Repr, Inhabited

/-- An array or object that is open: its items or members so far, last one first, and for an
object the name whose value comes next. -/
inductive Frame
  | array (done : List Outline)
  | object (done : List (List UInt8 × Outline)) (name : List UInt8)
  deriving Repr, Inhabited

/-- What may come next in the innermost array or object. -/
inductive Expecting
  /-- A value. -/
  | value
  /-- The first value of an array, or its end. -/
  | firstItem
  /-- The first name of an object, or its end. -/
  | firstName
  /-- A further name of an object. -/
  | name
  /-- The colon after a name. -/
  | colon
  /-- A comma or the end of the array or object. -/
  | next
  deriving DecidableEq, Repr

/-- How far the tree has been built: it waits for something inside of some open arrays and
objects, innermost first, or a value is complete, with a flag for tokens after it, or it met
a fault and is complete with that. -/
inductive Building
  | open (expecting : Expecting) (stack : List Frame)
  | complete (value : Outline) (trailing : Bool)
  deriving Repr, Inhabited

/-- The tree as it stands when a fault follows in the innermost open array or object. -/
def closeAll : Outline → List Frame → Outline
  | value, [] => value
  | value, .array done :: stack => closeAll (.array (value :: done).reverse false) stack
  | value, .object done name :: stack =>
    closeAll (.object ((name, value) :: done).reverse false) stack

/-- The tree when a fault comes in place of an item, a name or the end. -/
def breakOff : List Frame → Outline
  | [] => .fault
  | .array done :: stack => closeAll (.array done.reverse false) stack
  | .object done _ :: stack => closeAll (.object done.reverse false) stack

/-- The tree when a fault comes in place of a value or of the colon in front of it. -/
def breakOffValue (stack : List Frame) : Outline :=
  closeAll .fault stack

/-- Adds a value to the innermost open array or object. -/
def place (value : Outline) : List Frame → Building
  | [] => .complete value false
  | .array done :: stack => .open .next (.array (value :: done) :: stack)
  | .object done name :: stack => .open .next (.object ((name, value) :: done) [] :: stack)

/-- Reads the first token of a value. -/
def startValue (token : Token) (stack : List Frame) : Building :=
  match token with
  | .null => place .null stack
  | .bool value => place (.bool value) stack
  | .number literal => place (.number literal) stack
  | .string raw => place (.string raw) stack
  | .openArray => .open .firstItem (.array [] :: stack)
  | .openObject => .open .firstName (.object [] [] :: stack)
  | _ => .complete (breakOffValue stack) false

/-- Reads a name of an object. -/
def startName (token : Token) (stack : List Frame) : Building :=
  match token, stack with
  | .string raw, .object done _ :: stack => .open .colon (.object done raw :: stack)
  | _, stack => .complete (breakOff stack) false

/-- Reads one token. -/
def Building.step (b : Building) (token : Token) : Building :=
  match b with
  | .complete value _ => .complete value true
  | .open .value stack => startValue token stack
  | .open .firstItem (.array done :: stack) =>
    match token with
    | .closeArray => place (.array [] true) stack
    | _ => startItem token (.array done :: stack)
  | .open .firstName (.object done name :: stack) =>
    match token with
    | .closeObject => place (.object [] true) stack
    | _ => startName token (.object done name :: stack)
  | .open .name stack => startName token stack
  | .open .colon stack =>
    match token with
    | .colon => .open .value stack
    | _ => .complete (breakOffValue stack) false
  | .open .next (.array done :: stack) =>
    match token with
    | .comma => .open .value (.array done :: stack)
    | .closeArray => place (.array done.reverse true) stack
    | _ => .complete (breakOff (.array done :: stack)) false
  | .open .next (.object done name :: stack) =>
    match token with
    | .comma => .open .name (.object done name :: stack)
    | .closeObject => place (.object done.reverse true) stack
    | _ => .complete (breakOff (.object done name :: stack)) false
  | .open _ stack => .complete (breakOff stack) false
where
  startItem (token : Token) (stack : List Frame) : Building :=
    startValue token stack

/-- Ends the text. -/
def Building.finish : Building → Outline × Bool
  | .complete value trailing => (value, trailing)
  | .open .value stack => (breakOffValue stack, false)
  | .open .colon stack => (breakOffValue stack, false)
  | .open _ stack => (breakOff stack, false)

/-- The outline of a text, and whether anything follows its first value. -/
def outline (bytes : List UInt8) : Outline × Bool :=
  ((tokenize bytes).foldl Building.step (.open .value [])).finish

end BeaconLight.Json
