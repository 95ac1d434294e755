import GraphBrowser.Json.Numeral
import GraphBrowser.Json.Quote

set_option autoImplicit false

namespace GraphBrowser.Json

def isSpace (c : Char) : Bool := c == ' ' || c == '\n' || c == '\t' || c == '\r'

inductive Bracket where
  | square
  | curly
deriving DecidableEq

def Bracket.closer : Bracket → Char
  | .square => ']'
  | .curly => '}'

def Bracket.endError : Bracket → DecodeError
  | .square => .endInList
  | .curly => .endInObject

def Bracket.commaError : Bracket → DecodeError
  | .square => .expectedCommaInList
  | .curly => .expectedCommaInObject

def literal? : Char → Option (List Char)
  | 'n' => some ['u', 'l', 'l']
  | 't' => some ['r', 'u', 'e']
  | 'f' => some ['a', 'l', 's', 'e']
  | _ => none

-- Where a reader stands in a value that it passes over; the stack holds the open brackets, the innermost
-- first.
inductive Skip where
  | value (stack : List Bracket)
  | opened (bracket : Bracket) (stack : List Bracket)
  | key (stack : List Bracket)
  | colon (stack : List Bracket)
  | after (bracket : Bracket) (stack : List Bracket)
  | quote (q : Quote) (isKey : Bool) (stack : List Bracket)
  | numeral (phase : NumeralPhase) (stack : List Bracket)
  | literal (rest : List Char) (stack : List Bracket)

inductive Skip.Next where
  | more (s : Skip)
  | ended
  | endedBefore

namespace Skip

def close : List Bracket → Next
  | [] => .ended
  | bracket :: stack => .more (.after bracket stack)

def begin (c : Char) (stack : List Bracket) : Except DecodeError Next :=
  if c = '"' then .ok (.more (.quote (.start false) false stack))
  else if c = '[' then .ok (.more (.opened .square stack))
  else if c = '{' then .ok (.more (.opened .curly stack))
  else
    match NumeralPhase.first? c, literal? c with
    | some phase, _ => .ok (.more (.numeral phase stack))
    | _, some rest => .ok (.more (.literal rest stack))
    | none, none => .error .expectedValue

def beginKey (c : Char) (stack : List Bracket) : Except DecodeError Next :=
  if c = '"' then .ok (.more (.quote (.start false) true stack)) else .error .keyMustBeString

def stepAfter (bracket : Bracket) (stack : List Bracket) (c : Char) : Except DecodeError Next :=
  if isSpace c then .ok (.more (.after bracket stack))
  else if c = bracket.closer then .ok (close stack)
  else if c = ',' then
    match bracket with
    | .square => .ok (.more (.value (bracket :: stack)))
    | .curly => .ok (.more (.key (bracket :: stack)))
  else .error bracket.commaError

def step (s : Skip) (c : Char) : Except DecodeError Next :=
  match s with
  | .value stack => if isSpace c then .ok (.more s) else begin c stack
  | .opened bracket stack =>
      if isSpace c then .ok (.more s)
      else if c = bracket.closer then .ok (close stack)
      else
        match bracket with
        | .square => begin c (bracket :: stack)
        | .curly => beginKey c (bracket :: stack)
  | .key stack => if isSpace c then .ok (.more s) else beginKey c stack
  | .colon stack =>
      if isSpace c then .ok (.more s)
      else if c = ':' then .ok (.more (.value stack))
      else .error .expectedColon
  | .after bracket stack => stepAfter bracket stack c
  | .quote q isKey stack =>
      match q.step c with
      | .error e => .error e
      | .ok (.more q) => .ok (.more (.quote q isKey stack))
      | .ok (.closed _) => .ok (if isKey then .more (.colon stack) else close stack)
  | .numeral phase stack =>
      match phase.step c with
      | .more phase => .ok (.more (.numeral phase stack))
      | .broken => .error .invalidNumber
      | .ended =>
          match stack with
          | [] => .ok .endedBefore
          | bracket :: stack => stepAfter bracket stack c
  | .literal rest stack =>
      match rest with
      | [] => .error .expectedIdent
      | d :: rest =>
          if c ≠ d then .error .expectedIdent
          else if rest.isEmpty then .ok (close stack)
          else .ok (.more (.literal rest stack))

def endError : Skip → DecodeError
  | .value _ => .endInValue
  | .opened bracket _ => bracket.endError
  | .key _ => .endInObject
  | .colon _ => .endInObject
  | .after bracket _ => bracket.endError
  | .quote .. => .endInString
  | .numeral phase stack =>
      if phase.isComplete then (stack.head?.map Bracket.endError).getD .endInObject
      else .invalidNumber
  | .literal .. => .endInValue

end Skip

end GraphBrowser.Json
