import GraphBrowser.Http
import GraphBrowser.Proofs.PercentDecoding

set_option autoImplicit false

namespace GraphBrowser.Http

def Reply.rejection? : Reply → Option String
  | .failed reason => some reason
  | _ => none

def Reply.response? : Reply → Option Response
  | .response r => some r
  | _ => none

inductive Stage where
  | building
  | window
  | sending
  | reply
  | status
  | opening
  | delivery
  | text
  | decoding
deriving DecidableEq, Repr

def stages : List Stage :=
  [.building, .window, .sending, .reply, .status, .opening, .delivery, .text, .decoding]

-- What goes wrong at a stage, whatever went wrong before it.
def Circumstances.fault? (c : Circumstances) : Stage → Option FetchError
  | .building => c.refused.map thrown
  | .window => if c.window then none else some (.network "no window")
  | .sending => c.reply.rejection?.map thrown
  | .reply => if c.reply = .foreign then some (.network "response is not a Response") else none
  | .status => c.reply.response?.bind fun r =>
      if 200 ≤ r.status ∧ r.status ≤ 299 then none else some (.status r.status)
  | .opening => c.reply.response?.bind fun r => r.textRefused.map thrown
  | .delivery => c.reply.response?.bind fun r => r.textLost.map thrown
  | .text => c.reply.response?.bind fun r => if r.body = none then some (.undecodable "body is not text") else none
  | .decoding => (c.reply.response?.bind Response.body).bind fun body =>
      match Fragment.decode body with
      | .ok _ => none
      | .error e => some e

def Reply.Brings (reply : Reply) (body : String) : Prop :=
  ∃ r, reply = .response r ∧ 200 ≤ r.status ∧ r.status ≤ 299 ∧ r.textRefused = none ∧ r.textLost = none ∧
    r.body = some body

theorem ok_iff (r : Response) : r.isOk = true ↔ 200 ≤ r.status ∧ r.status ≤ 299 := by
  simp only [Response.isOk, Bool.and_eq_true, decide_eq_true_eq]

theorem read_ok_iff (reply : Reply) (f : Fragment) :
    reply.read = .ok f ↔ ∃ body, reply.Brings body ∧ Fragment.decode body = .ok f := by
  constructor
  · intro read
    cases reply with
    | failed reason => cases read
    | foreign => cases read
    | response r =>
        rw [Reply.read, Response.read] at read
        split at read
        next good =>
          split at read
          next => cases read
          next => cases read
          next => cases read
          next body refused lost arrived =>
            obtain ⟨low, high⟩ := (ok_iff r).mp good
            exact ⟨body, ⟨r, rfl, low, high, refused, lost, arrived⟩, read⟩
        next => cases read
  · rintro ⟨body, ⟨r, rfl, low, high, refused, lost, arrived⟩, decoded⟩
    rw [Reply.read, Response.read, if_pos ((ok_iff r).mpr ⟨low, high⟩), refused, lost, arrived]
    exact decoded

theorem response_error_iff (r : Response) (e : FetchError) :
    r.read = .error e ↔ stages.findSome? (⟨none, true, .response r⟩ : Circumstances).fault? = some e := by
  have earlier : stages.findSome? (⟨none, true, .response r⟩ : Circumstances).fault? =
      [Stage.status, .opening, .delivery, .text, .decoding].findSome?
        (⟨none, true, .response r⟩ : Circumstances).fault? := rfl
  rw [earlier, Response.read]
  by_cases good : 200 ≤ r.status ∧ r.status ≤ 299
  · rw [if_pos ((ok_iff r).mpr good)]
    cases refused : r.textRefused with
    | some reason => simp [Circumstances.fault?, Reply.response?, good, refused]
    | none =>
        cases lost : r.textLost with
        | some reason => simp [Circumstances.fault?, Reply.response?, good, refused, lost]
        | none =>
            cases arrived : r.body with
            | none => simp [Circumstances.fault?, Reply.response?, good, refused, lost, arrived]
            | some body =>
                cases decoded : Fragment.decode body <;>
                  simp [Circumstances.fault?, Reply.response?, good, refused, lost, arrived, decoded]
  · rw [if_neg fun ok => good ((ok_iff r).mp ok)]
    simp only [List.findSome?_cons, Circumstances.fault?, Reply.response?, Option.bind_some, if_neg good,
      Except.error.injEq, Option.some.injEq]

theorem fetch_sent (base id : String) (c : Circumstances) :
    (fetch base id c).1 = if c.refused = none ∧ c.window = true then [request base id] else [] := by
  obtain ⟨refused, window, reply⟩ := c
  cases refused with
  | some reason => rfl
  | none => cases window <;> rfl

theorem fetch_ok_iff (base id : String) (c : Circumstances) (f : Fragment) :
    (fetch base id c).2 = .ok f ↔ (c.refused = none ∧ c.window = true) ∧ c.reply.read = .ok f := by
  obtain ⟨refused, window, reply⟩ := c
  cases refused with
  | some reason => simp [fetch]
  | none => cases window <;> simp [fetch]

theorem fetch_error_iff (base id : String) (c : Circumstances) (e : FetchError) :
    (fetch base id c).2 = .error e ↔ stages.findSome? c.fault? = some e := by
  -- Up to the reply an exchange fails with the only fault there is.
  have fails (d : Circumstances) (cause : FetchError) (result : (fetch base id d).2 = .error cause)
      (first : stages.findSome? d.fault? = some cause) :
      (fetch base id d).2 = .error e ↔ stages.findSome? d.fault? = some e := by
    rw [result, first, Except.error.injEq, Option.some.injEq]
  obtain ⟨refused, window, reply⟩ := c
  cases refused with
  | some reason => exact fails _ (thrown reason) rfl rfl
  | none =>
      cases window with
      | false => exact fails _ (.network "no window") rfl rfl
      | true =>
          cases reply with
          | failed reason => exact fails _ (thrown reason) rfl rfl
          | foreign => exact fails _ (.network "response is not a Response") rfl rfl
          | response r => exact response_error_iff r e

theorem request_url (base id : String) : (request base id).url = base ++ "?uri=" ++ Text.percentEncode id := rfl

theorem fetch_asks_and_trusts (base id : String) (c : Circumstances) :
    (fetch base id c).1 = (if c.refused = none ∧ c.window = true then [request base id] else []) ∧
      (∃ text, (request base id).url = base ++ "?uri=" ++ text ∧ Text.Escaped text.toList ∧
        Text.percentDecode? text = some id) ∧
      (∀ other, (request base id).url = (request base other).url ↔ id = other) ∧
      (∀ f, (fetch base id c).2 = .ok f ↔
        (c.refused = none ∧ c.window = true) ∧ ∃ body, c.reply.Brings body ∧ Fragment.decode body = .ok f) ∧
      (∀ e, (fetch base id c).2 = .error e ↔ stages.findSome? c.fault? = some e) := by
  refine ⟨fetch_sent base id c, ?_, ?_, ?_, fetch_error_iff base id c⟩
  · exact ⟨Text.percentEncode id, request_url base id, Text.percent_encode_escaped id, Text.percent_decode_encode id⟩
  · intro other
    rw [request_url, request_url, String.append_right_inj, Text.percent_encode_inj]
  · intro f
    rw [fetch_ok_iff, read_ok_iff]

end GraphBrowser.Http
