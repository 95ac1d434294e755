import GraphBrowser.Fragment.Reader
import GraphBrowser.Text.Position

set_option autoImplicit false

namespace GraphBrowser

open Json
open Text (Position)

-- How many bytes of a character that breaks an escape count as read: as many as a group of hex digits
-- still lacks.
def Json.Quote.lacking (q : Quote) : Nat :=
  match q.phase with
  | .unit digits | .lower _ digits => 4 - byteLength digits
  | _ => 1

namespace Reader

def quote? : Reader → Option Quote
  | .key q _ | .text q _ | .skip (.quote q _ _) _ => some q
  | _ => none

-- How many bytes of the character count as read when it is refused. Of a bracket that opens the wrong
-- kind of value none does, nor of a control character in a string of no interest, nor of what follows a
-- number, nor of what follows a repeated key, unless that closes the object.
def taken (r : Reader) (c : Char) : DecodeError → Nat
  | .wrongType .sequence _ | .wrongType .map _ => 0
  | .wrongType (.integer _) _ | .wrongType (.fractional _) _ | .numberOutOfRange => 0
  | .duplicateField _ => if c = '}' then 1 else 0
  | .invalidEscape => (r.quote?.map Quote.lacking).getD 1
  | .controlCharacter => if r.quote?.any (!·.checked) then 0 else 1
  | _ => 1

-- How many of the last bytes do not count as read: the digits of an exponent behind the one that takes
-- it out of range.
def untouched (r : Reader) (e : DecodeError) : Nat :=
  match e, r with
  | .numberOutOfRange, .numeral _ chars _ => (Numeral.parts chars.reverse).surplus
  | _, _ => 0

def refusal (r : Reader) (p : Position) : List Char → Position
  | [] =>
      match r.finish with
      | .ok _ => p
      | .error e => p.back (r.untouched e)
  | c :: rest =>
      match r.step c with
      | .ok r => r.refusal (p.past c) rest
      | .error e => (p.into c (r.taken c e)).back (r.untouched e)

end Reader

namespace Fragment

def refusal (text : String) : Position := (Reader.value .fragment).refusal .start text.toList

def decode (text : String) : FetchResult :=
  (ofJson text).mapError fun e =>
    .undecodable (e.message ++ " at " ++ (refusal text).describe)

end Fragment

end GraphBrowser
