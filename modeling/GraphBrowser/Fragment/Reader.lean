import GraphBrowser.Fragment.Draft
import GraphBrowser.Json.Skip

set_option autoImplicit false

namespace GraphBrowser

open Json

inductive Reader where
  | value (spot : Spot)
  | opened (draft : Draft)
  -- Behind a comma that another member has to follow.
  | comma (draft : Draft)
  -- Behind a comma that follows the last field of a record.
  | surplus
  | colon (spot : Spot)
  -- Behind a key whose field was read before: nothing that follows can mend that.
  | repeated (key : String)
  | after (draft : Draft)
  | key (q : Quote) (draft : Draft)
  | text (q : Quote) (spot : Spot)
  -- Inside a number, which is nowhere wanted, with its characters, the last first.
  | numeral (phase : NumeralPhase) (chars : List Char) (spot : Spot)
  | literal (first : Char) (rest : List Char) (spot : Spot)
  | skip (s : Skip) (draft : Draft)
  | done (fragment : Fragment)

namespace Reader

def afterSkip (next : Skip.Next) (draft : Draft) : Reader :=
  match next with
  | .more s => .skip s draft
  | .ended | .endedBefore => .after draft

def begin (spot : Spot) (c : Char) : Except DecodeError Reader :=
  match spot with
  | .ignored draft => (Skip.begin c []).map (afterSkip · draft)
  | spot =>
      if c = '"' then .ok (.text (.start true) spot)
      else if c = '[' then (spot.enter .array).map .opened
      else if c = '{' then (spot.enter .object).map .opened
      else
        match NumeralPhase.first? c, literal? c with
        | some phase, _ => .ok (.numeral phase [c] spot)
        | _, some rest => .ok (.literal c rest spot)
        | none, none => .error .expectedValue

def closed (draft : Draft) : Except DecodeError Reader :=
  draft.close.map fun
    | .inl draft => .after draft
    | .inr fragment => .done fragment

def beginElement (draft : Draft) (c : Char) : Except DecodeError Reader :=
  match draft.element? with
  | some spot => begin spot c
  | none => .error .trailingCharacters

def stepAfter (draft : Draft) (c : Char) : Except DecodeError Reader :=
  if isSpace c then .ok (.after draft)
  else
    match draft.form with
    | .object =>
        if c = '}' then closed draft
        else if c = ',' then .ok (.comma draft)
        else .error .expectedCommaInObject
    | .array =>
        if c = ']' then closed draft
        else
          match draft.element? with
          | some _ => if c = ',' then .ok (.comma draft) else .error .expectedCommaInList
          | none => if c = ',' then .ok .surplus else .error .trailingCharacters

def putLiteral (spot : Spot) (first : Char) : Except DecodeError Reader :=
  if first = 'n' then spot.putNull.map .after
  else .error (.wrongType (.boolean (first == 't')) spot.wanted)

def putNumeral {β : Type} (spot : Spot) (chars : List Char) : Except DecodeError β := do
  let found ← (Numeral.parts chars.reverse).value
  throw (.wrongType found spot.wanted)

def step (r : Reader) (c : Char) : Except DecodeError Reader :=
  match r with
  | .value spot => if isSpace c then .ok r else begin spot c
  | .opened draft =>
      if isSpace c then .ok r
      else
        match draft.form with
        | .object =>
            if c = '}' then closed draft
            else if c = '"' then .ok (.key (.start true) draft)
            else .error .keyMustBeString
        | .array => if c = ']' then closed draft else beginElement draft c
  | .comma draft =>
      if isSpace c then .ok r
      else
        match draft.form with
        | .object =>
            if c = '"' then .ok (.key (.start true) draft)
            else if c = '}' then .error .trailingComma
            else .error .keyMustBeString
        | .array => if c = ']' then .error .trailingComma else beginElement draft c
  | .surplus =>
      if isSpace c then .ok r
      else if c = ']' then .error .trailingComma
      else .error .trailingCharacters
  | .colon spot =>
      if isSpace c then .ok r
      else if c = ':' then .ok (.value spot)
      else .error .expectedColon
  | .repeated k => if isSpace c then .ok r else .error (.duplicateField k)
  | .after draft => stepAfter draft c
  | .key q draft =>
      match q.step c with
      | .error e => .error e
      | .ok (.more q) => .ok (.key q draft)
      | .ok (.closed k) => .ok (((draft.key? k).map .colon).getD (.repeated k))
  | .text q spot =>
      match q.step c with
      | .error e => .error e
      | .ok (.more q) => .ok (.text q spot)
      | .ok (.closed s) => (spot.putText s).map .after
  | .numeral phase chars spot =>
      match phase.step c with
      | .more phase => .ok (.numeral phase (c :: chars) spot)
      | .broken => .error .invalidNumber
      | .ended => putNumeral spot chars
  | .literal first rest spot =>
      match rest with
      | [] => .error .expectedIdent
      | d :: rest =>
          if c ≠ d then .error .expectedIdent
          else if rest.isEmpty then putLiteral spot first
          else .ok (.literal first rest spot)
  | .skip s draft =>
      match s.step c with
      | .error e => .error e
      | .ok .endedBefore => stepAfter draft c
      | .ok next => .ok (afterSkip next draft)
  | .done _ => if isSpace c then .ok r else .error .trailingCharacters

def formEndError : Form → DecodeError
  | .object => .endInObject
  | .array => .endInList

def finish : Reader → Except DecodeError Fragment
  | .value _ => .error .endInValue
  | .opened draft => .error (formEndError draft.form)
  | .comma _ => .error .endInValue
  | .surplus => .error .trailingCharacters
  | .colon _ => .error .endInObject
  | .repeated k => .error (.duplicateField k)
  | .after draft => .error (formEndError draft.form)
  | .key .. => .error .endInString
  | .text .. => .error .endInString
  | .numeral phase chars spot =>
      if phase.isComplete then putNumeral spot chars else .error .endInValue
  | .literal .. => .error .endInValue
  | .skip (.numeral phase []) draft =>
      .error (if phase.isComplete then formEndError draft.form else .invalidNumber)
  | .skip s _ => .error s.endError
  | .done fragment => .ok fragment

def run (r : Reader) (text : List Char) : Except DecodeError Reader := text.foldlM step r

end Reader

namespace Fragment

def ofJson (text : String) : Except DecodeError Fragment := do
  (← (Reader.value .fragment).run text.toList).finish

end Fragment

end GraphBrowser
