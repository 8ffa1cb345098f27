import ApiTools.Fault
import ApiTools.Json.Token

/-!
# Reading a document

The tokens of a document drive a machine that keeps the arrays and objects not yet closed on a
stack. Every token costs one step, so a document of any depth is read in time and space
proportional to its length.
-/

namespace ApiTools.Json

/-- An array or object that is not yet closed. -/
inductive Frame where
  /-- An array, with its items so far, last one first. -/
  | items (done : List Json)
  /-- An object, with its members so far, last one first, and the key of the value under way. -/
  | fields (done : List (String × Json)) (key : String)

/-- What has to come next. -/
inductive Awaiting where
  /-- A value. -/
  | value
  /-- A value or the end of an array that is still empty. -/
  | firstItem
  /-- A key or the end of an object that is still empty. -/
  | firstKey
  /-- A key, after the members so far. -/
  | key (done : List (String × Json))
  /-- A colon, after a key. -/
  | colon (done : List (String × Json)) (key : String)
  /-- A comma or the end of the innermost array or object, after the value that is given. -/
  | separator (value : Json)

/-- The machine between two tokens: the open frames, innermost first, and what has to come. -/
structure Assembly where
  frames : List Frame
  awaiting : Awaiting

namespace Assembly

/-- Before the first token. -/
def start : Assembly :=
  ⟨[], .value⟩

/-- Takes a token where a value has to come. -/
def stepValue (frames : List Frame) : Token → Except Fault Assembly
  | .text value => .ok ⟨frames, .separator (.str value)⟩
  | .scalar value => .ok ⟨frames, .separator value⟩
  | .openBracket => .ok ⟨.items [] :: frames, .firstItem⟩
  | .openBrace => .ok ⟨frames, .firstKey⟩
  | .overlong => .error .badNumber
  | _ => .error .malformedJson

/-- Takes the next token. A key that was already given in its object changes the value at the first
place. -/
def step (assembly : Assembly) (token : Token) : Except Fault Assembly :=
  match assembly.awaiting with
  | .value => stepValue assembly.frames token
  | .firstItem =>
    match token, assembly.frames with
    | .closeBracket, _ :: frames => .ok ⟨frames, .separator (.arr [])⟩
    | _, frames => stepValue frames token
  | .firstKey =>
    match token with
    | .closeBrace => .ok ⟨assembly.frames, .separator (.obj [])⟩
    | .text key => .ok ⟨assembly.frames, .colon [] key⟩
    | _ => .error .malformedJson
  | .key done =>
    match token with
    | .text key => .ok ⟨assembly.frames, .colon done key⟩
    | _ => .error .malformedJson
  | .colon done key =>
    match token with
    | .colon => .ok ⟨.fields done key :: assembly.frames, .value⟩
    | _ => .error .malformedJson
  | .separator value =>
    match assembly.frames, token with
    | .items done :: frames, .comma => .ok ⟨.items (value :: done) :: frames, .value⟩
    | .items done :: frames, .closeBracket =>
      .ok ⟨frames, .separator (.arr (value :: done).reverse)⟩
    | .fields done key :: frames, .comma => .ok ⟨frames, .key ((key, value) :: done)⟩
    | .fields done key :: frames, .closeBrace =>
      .ok ⟨frames, .separator (.obj (Keyed.ofPairs ((key, value) :: done).reverse))⟩
    | _, _ => .error .malformedJson

/-- Takes all tokens. The first one that cannot stand in its place decides what is wrong. -/
def run (assembly : Assembly) (tokens : List Token) : Except Fault Assembly :=
  tokens.foldlM step assembly

/-- The value, when all is closed. -/
def result (assembly : Assembly) : Except Fault Json :=
  match assembly.frames, assembly.awaiting with
  | [], .separator value => .ok value
  | _, _ => .error .malformedJson

end Assembly

/-- The value of a document. -/
def read (document : List Char) : Except Fault Json := do
  (← Assembly.start.run (tokens document)).result

end ApiTools.Json
