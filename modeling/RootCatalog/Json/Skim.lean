import RootCatalog.Json.Lexer
/-! Passing over one value of any kind. Only its shape is checked; open brackets are kept in a list,
so there is no bound on nesting. -/
namespace RootCatalog.Json

inductive Frame where
  | array
  | object
  deriving DecidableEq, Repr

inductive Expect where
  | value
  | valueOrClose
  | key
  | keyOrClose
  | colon
  | commaOrClose
  deriving DecidableEq, Repr

structure Skim where
  expect : Expect
  frames : List Frame
  deriving DecidableEq, Repr

namespace Skim

def start : Skim := ⟨.value, []⟩

def ended : List Frame → Option Skim
  | [] => none
  | frames => some ⟨.commaOrClose, frames⟩

def value (frames : List Frame) : Token → Except Fault (Option Skim)
  | .openBracket => .ok (some ⟨.valueOrClose, .array :: frames⟩)
  | .openBrace => .ok (some ⟨.keyOrClose, .object :: frames⟩)
  | .null | .bool _ => .ok (ended frames)
  | .number _ skim | .string _ skim => skim.map fun _ => ended frames
  | .broken f => .error f
  | .closeBracket | .closeBrace | .comma | .colon => .error .malformed

def key (frames : List Frame) : Token → Except Fault (Option Skim)
  | .string _ skim => skim.map fun _ => some ⟨.colon, frames⟩
  | _ => .error .malformed

def step (s : Skim) (t : Token) : Except Fault (Option Skim) :=
  match s.expect, s.frames, t with
  | .value, frames, t => value frames t
  | .valueOrClose, .array :: frames, .closeBracket => .ok (ended frames)
  | .valueOrClose, frames, t => value frames t
  | .key, frames, t => key frames t
  | .keyOrClose, .object :: frames, .closeBrace => .ok (ended frames)
  | .keyOrClose, frames, t => key frames t
  | .colon, frames, .colon => .ok (some ⟨.value, frames⟩)
  | .commaOrClose, .array :: frames, .comma => .ok (some ⟨.value, .array :: frames⟩)
  | .commaOrClose, .array :: frames, .closeBracket => .ok (ended frames)
  | .commaOrClose, .object :: frames, .comma => .ok (some ⟨.key, .object :: frames⟩)
  | .commaOrClose, .object :: frames, .closeBrace => .ok (ended frames)
  | .colon, _, _ | .commaOrClose, _, _ => .error .malformed

end Skim
end RootCatalog.Json
