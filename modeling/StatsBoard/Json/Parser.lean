import StatsBoard.Json.Token

/-!
# From tokens to drafts

The containers that are open form a stack. Each token is taken once, in order, according to what
may come next; when the tokens end or do not fit, the open containers are closed around the fault.
-/

namespace StatsBoard.Json

/-- An open container: an array with its items in reverse, or an object with its members in reverse
and the key whose value is being read. -/
inductive Frame where
  | array (items : List Draft)
  | object (members : List (Draft × Draft)) (key : Draft)

/-- What may come next. -/
inductive Expectation where
  /-- A value. -/
  | item
  /-- A value or the end of the array just opened. -/
  | itemOrClose
  /-- A comma or the end of the container. -/
  | next
  /-- A key. -/
  | key
  /-- A key or the end of the object just opened. -/
  | keyOrClose
  /-- A colon. -/
  | colon

/-- An open container with a value added. -/
def Frame.add (value : Draft) : Frame → Frame
  | .array items => .array (value :: items)
  | .object members key => .object ((key, value) :: members) key

/-- The draft of a container that ends here. -/
def Frame.finish (ending : Option Fault) : Frame → Draft
  | .array items => .array items.reverse ending
  | .object members _ => .object members.reverse ending

/-- Close all open containers around a value that a fault cut off. -/
def collapse (fault : Fault) : List Frame → Draft → Draft
  | [], value => value
  | frame :: stack, value => collapse fault stack ((frame.add value).finish (some fault))

/-- A value that a fault cut off, with the containers around it. -/
def cutOff (stack : List Frame) (fault : Fault) : Document :=
  ⟨collapse fault stack (.broken fault), false⟩

/-- The innermost container ends with a fault, and so do those around it. -/
def cutEnd (stack : List Frame) (fault : Fault) : Document :=
  match stack with
  | [] => ⟨.broken fault, false⟩
  | frame :: stack => ⟨collapse fault stack (frame.finish (some fault)), false⟩

/-- A fault where the name of a key should stand: what the place holds decides its category for a
variant name. -/
def unquotedKey : Token → Fault
  | .bare draft => ⟨.malformed, .malformed, draft.refusal⟩
  | .openArray | .openObject => ⟨.malformed, .malformed, .mismatch⟩
  | _ => .plain .malformed

/-- The document of a list of tokens, given the open containers and what may come next. A finished
value outside of all containers is the document. -/
def parseFrom : List Frame → Expectation → Draft → List Token → Document
  | stack, .item, _, [] => cutOff stack (.plain .endOfText)
  | stack, .colon, _, [] => cutOff stack (.plain .endOfText)
  | [], _, value, [] => ⟨value, false⟩
  | stack, _, _, [] => cutEnd stack (.plain .endOfText)
  | [], .next, value, _ :: _ => ⟨value, true⟩
  | stack, .next, value, token :: rest =>
    match stack, token with
    | .array items :: outer, .comma => parseFrom (.array items :: outer) .item value rest
    | .array items :: outer, .closeArray =>
      let done := (Frame.array items).finish none
      parseFrom (outer.modifyHead (·.add done)) .next done rest
    | .object members key :: outer, .comma =>
      parseFrom (.object members key :: outer) .key value rest
    | .object members key :: outer, .closeObject =>
      let done := (Frame.object members key).finish none
      parseFrom (outer.modifyHead (·.add done)) .next done rest
    | stack, _ => cutEnd stack (.plain .malformed)
  | stack, .colon, value, token :: rest =>
    match token with
    | .colon => parseFrom stack .item value rest
    | _ => cutOff stack (.plain .malformed)
  | stack, .key, value, token :: rest =>
    match token, stack with
    | .quoted key, .object members _ :: outer =>
      parseFrom (.object members key :: outer) .colon value rest
    | _, _ => cutEnd stack (.plain .malformed)
  | stack, .keyOrClose, value, token :: rest =>
    match token, stack with
    | .quoted key, .object members _ :: outer =>
      parseFrom (.object members key :: outer) .colon value rest
    | .closeObject, .object members key :: outer =>
      let done := (Frame.object members key).finish none
      parseFrom (outer.modifyHead (·.add done)) .next done rest
    | token, _ => cutEnd stack (unquotedKey token)
  | stack, .item, value, token :: rest =>
    match token with
    | .bare done | .quoted done => parseFrom (stack.modifyHead (·.add done)) .next done rest
    | .openArray => parseFrom (.array [] :: stack) .itemOrClose value rest
    | .openObject => parseFrom (.object [] .null :: stack) .keyOrClose value rest
    | _ => cutOff stack (.plain .malformed)
  | stack, .itemOrClose, value, token :: rest =>
    match token, stack with
    | .closeArray, .array items :: outer =>
      let done := (Frame.array items).finish none
      parseFrom (outer.modifyHead (·.add done)) .next done rest
    | .bare done, stack | .quoted done, stack =>
      parseFrom (stack.modifyHead (·.add done)) .next done rest
    | .openArray, stack => parseFrom (.array [] :: stack) .itemOrClose value rest
    | .openObject, stack => parseFrom (.object [] .null :: stack) .keyOrClose value rest
    | _, stack => cutOff stack (.plain .malformed)

/-- The draft of a text. -/
def draft (text : String) : Document :=
  parseFrom [] .item .null (tokens text.toList)

end StatsBoard.Json
