import GraphBrowser.Json.Error

set_option autoImplicit false

namespace GraphBrowser.Json

inductive QuotePhase where
  | plain
  | escape
  | unit (digits : List Char)
  | upper (unit : Nat)
  | upperEscape (unit : Nat)
  | lower (upper : Nat) (digits : List Char)
deriving DecidableEq

structure Quote where
  -- A string whose content is of no interest is read without a check on surrogates.
  checked : Bool
  phase : QuotePhase
  chars : List Char
deriving DecidableEq

inductive Quote.Next where
  | more (q : Quote)
  | closed (s : String)

def isUpperSurrogate (n : Nat) : Bool := 0xD800 ≤ n && n ≤ 0xDBFF

def isLowerSurrogate (n : Nat) : Bool := 0xDC00 ≤ n && n ≤ 0xDFFF

def surrogatePair (upper lower : Nat) : Char :=
  Char.ofNat (0x10000 + (upper - 0xD800) * 0x400 + (lower - 0xDC00))

def hexValue? (c : Char) : Option Nat :=
  if '0' ≤ c ∧ c ≤ '9' then some (c.toNat - '0'.toNat)
  else if 'a' ≤ c ∧ c ≤ 'f' then some (c.toNat - 'a'.toNat + 10)
  else if 'A' ≤ c ∧ c ≤ 'F' then some (c.toNat - 'A'.toNat + 10)
  else none

def hexNumber? (digits : List Char) : Option Nat :=
  digits.foldl (fun n? c => n?.bind fun n => (hexValue? c).map (16 * n + ·)) (some 0)

def byteLength (chars : List Char) : Nat := chars.foldr (fun c n => c.utf8Size + n) 0

-- One more character of a group of four bytes that has to hold four hex digits. The group is judged when
-- it is complete.
def gather (digits : List Char) (c : Char) : Except DecodeError (List Char ⊕ Nat) :=
  let digits := digits ++ [c]
  if byteLength digits < 4 then .ok (.inl digits)
  else
    match hexNumber? digits with
    | some n => .ok (.inr n)
    | none => .error .invalidEscape

def simpleEscape? : Char → Option Char
  | '"' => some '"'
  | '\\' => some '\\'
  | '/' => some '/'
  | 'b' => some '\x08'
  | 'f' => some '\x0c'
  | 'n' => some '\n'
  | 'r' => some '\r'
  | 't' => some '\t'
  | _ => none

namespace Quote

def start (checked : Bool) : Quote := ⟨checked, .plain, []⟩

def push (q : Quote) (c : Char) : Quote := { q with phase := .plain, chars := c :: q.chars }

def stay (q : Quote) (phase : QuotePhase) : Except DecodeError Next := .ok (.more { q with phase })

def pushed (q : Quote) (c : Char) : Except DecodeError Next := .ok (.more (q.push c))

def step (q : Quote) (c : Char) : Except DecodeError Next :=
  match q.phase with
  | .plain =>
      if c = '"' then .ok (.closed (String.ofList q.chars.reverse))
      else if c = '\\' then q.stay .escape
      else if c.toNat < 0x20 then .error .controlCharacter
      else q.pushed c
  | .escape =>
      if c = 'u' then q.stay (.unit [])
      else
        match simpleEscape? c with
        | some e => q.pushed e
        | none => .error .invalidEscape
  | .unit digits =>
      match gather digits c with
      | .error e => .error e
      | .ok (.inl digits) => q.stay (.unit digits)
      | .ok (.inr n) =>
          if q.checked then
            if isLowerSurrogate n then .error .loneSurrogate
            else if isUpperSurrogate n then q.stay (.upper n)
            else q.pushed (Char.ofNat n)
          else q.stay .plain
  | .upper n => if c = '\\' then q.stay (.upperEscape n) else .error .unexpectedEndOfHex
  | .upperEscape n => if c = 'u' then q.stay (.lower n []) else .error .unexpectedEndOfHex
  | .lower upper digits =>
      match gather digits c with
      | .error e => .error e
      | .ok (.inl digits) => q.stay (.lower upper digits)
      | .ok (.inr n) =>
          if isLowerSurrogate n then q.pushed (surrogatePair upper n) else .error .loneSurrogate

end Quote

end GraphBrowser.Json
