import LiveSelector.Event.Hub
import Mathlib.Data.List.Induction
import Mathlib.Data.List.Nodup

namespace LiveSelector.Hub

/-! What a hub answers over its whole life.  The tokens it gives are the numbers from one on, so a
token says which of the listeners that have come it stands for, also after that listener has gone.
What is kept from call to call is that the hub's listeners are those of its past that have come and
not gone, in the order in which they came. -/

/-- The calls so far with their answers. -/
abbrev Past := List (HubCall × HubAnswer)

def arrival? : HubCall × HubAnswer → Option (Token × Interest)
  | (.subscribe interest, .given token) => some (token, interest)
  | _ => none

/-- The listeners that have come, with the tokens they were given. -/
def arrivals (past : Past) : List (Token × Interest) :=
  past.filterMap arrival?

def given (past : Past) : List Token :=
  (arrivals past).map Prod.fst

/-- A listener has come with a token and has not been asked to go since. -/
def Stays (past : Past) (token : Token) (interest : Interest) : Prop :=
  ∃ early late, past = early ++ (.subscribe interest, .given token) :: late ∧
    ∀ answer, (HubCall.unsubscribe token, answer) ∉ late

/-- How often a token has been taken back. -/
def takenBack (past : Past) (token : Token) : Nat :=
  past.count (.unsubscribe token, .removed true)

variable {hub : Hub} {past : Past} {token : Token} {interest : Interest} {call : HubCall}
variable {answer : HubAnswer}

theorem stays_concat : Stays (past ++ [(call, answer)]) token interest ↔
    (call = .subscribe interest ∧ answer = .given token) ∨
      (Stays past token interest ∧ call ≠ .unsubscribe token) := by
  constructor
  · intro ⟨early, late, cut, lasting⟩
    cases late using List.reverseRecOn with
    | nil =>
        obtain ⟨_, last⟩ := List.append_inj' cut rfl
        cases last
        exact .inl ⟨rfl, rfl⟩
    | append_singleton between last =>
        rw [← List.cons_append, ← List.append_assoc] at cut
        obtain ⟨front, same⟩ := List.append_inj' cut rfl
        cases same
        refine .inr ⟨⟨early, between, front, fun other among => ?_⟩, ?_⟩
        · exact lasting other (List.mem_append_left _ among)
        · intro asked
          subst asked
          exact lasting answer (by simp)
  · intro cases
    rcases cases with ⟨rfl, rfl⟩ | ⟨⟨early, late, rfl, lasting⟩, other⟩
    · exact ⟨past, [], rfl, by simp⟩
    · refine ⟨early, late ++ [(call, answer)], by simp, fun reply among => ?_⟩
      rcases List.mem_append.mp among with before | last
      · exact lasting reply before
      · cases List.mem_singleton.mp last
        exact other rfl

theorem given_concat : given (past ++ [(call, answer)]) =
    given past ++ ((arrival? (call, answer)).map Prod.fst).toList := by
  cases known : arrival? (call, answer) <;>
    simp [given, arrivals, known]

/-- What holds of a hub and its past between calls. -/
structure Follows (hub : Hub) (past : Past) : Prop where
  counted : hub.lastToken = (given past).length
  numbered : given past = List.range' 1 (given past).length
  ordered : hub.listeners.Sublist (arrivals past)
  staying : ∀ token interest, (token, interest) ∈ hub.listeners ↔ Stays past token interest
  /-- A token that has been given is held by a listener or has been taken back once. -/
  balanced : ∀ token,
    takenBack past token + (hub.listeners.map Prod.fst).count token = (given past).count token

theorem follows_empty : Follows empty [] where
  counted := rfl
  numbered := rfl
  ordered := .slnil
  staying := fun token interest => by simp [empty, Stays]
  balanced := fun token => rfl

namespace Follows

theorem nodup (follows : Follows hub past) : (given past).Nodup := by
  rw [follows.numbered]
  exact List.nodup_range'

theorem nodup_listeners (follows : Follows hub past) : (hub.listeners.map Prod.fst).Nodup :=
  (follows.ordered.map Prod.fst).nodup follows.nodup

theorem le_of_given (follows : Follows hub past) (known : token ∈ given past) :
    token ≤ (given past).length := by
  rw [follows.numbered, List.mem_range'_1, Nat.add_comm] at known
  exact Nat.le_of_lt_succ known.2

theorem fresh (follows : Follows hub past) : hub.lastToken + 1 ∉ given past := by
  intro known
  have bound := follows.le_of_given known
  rw [← follows.counted] at bound
  exact Nat.not_succ_le_self _ bound

theorem held_iff (follows : Follows hub past) :
    token ∈ hub.listeners.map Prod.fst ↔ ∃ interest, Stays past token interest := by
  simp only [List.mem_map, Prod.exists, exists_and_right, exists_eq_right, follows.staying]

theorem subscribe (follows : Follows hub past) (interest : Interest) :
    Follows (hub.subscribe interest).1
      (past ++ [(.subscribe interest, .given (hub.subscribe interest).2)]) := by
  have tokens : given (past ++ [(.subscribe interest, .given (hub.subscribe interest).2)]) =
      given past ++ [(hub.subscribe interest).2] := given_concat
  constructor
  · rw [tokens, List.length_append, ← follows.counted]
    rfl
  · rw [tokens, List.length_append, List.length_singleton, List.range'_1_concat, ← follows.numbered]
    simp [Hub.subscribe, follows.counted, Nat.add_comm]
  · simp only [arrivals, List.filterMap_append]
    exact follows.ordered.append (List.Sublist.refl _)
  · intro token other
    have newest : (token, other) = (hub.lastToken + 1, interest) ↔
        interest = other ∧ hub.lastToken + 1 = token := by
      simp [eq_comm, and_comm]
    simp [Hub.subscribe, stays_concat, ← follows.staying, newest, or_comm]
  · intro token
    have balanced := follows.balanced token
    have same : takenBack (past ++ [(.subscribe interest, .given (hub.subscribe interest).2)]) token =
        takenBack past token := by
      simp [takenBack]
    rw [same, tokens, List.count_append, ← balanced]
    simp [Hub.subscribe, List.count_append, Nat.add_assoc]

theorem removed_iff (follows : Follows hub past) :
    (hub.unsubscribe token).listeners.length ≠ hub.listeners.length ↔
      ∃ interest, Stays past token interest := by
  rw [← follows.held_iff, Hub.unsubscribe, ne_eq, List.length_filter_eq_length_iff]
  simp

theorem unsubscribe (follows : Follows hub past) (token : Token) :
    Follows (hub.unsubscribe token)
      (past ++ [(.unsubscribe token, .removed
        ((hub.unsubscribe token).listeners.length ≠ hub.listeners.length))]) := by
  generalize flag : decide ((hub.unsubscribe token).listeners.length ≠ hub.listeners.length) = gone
  have tokens : given (past ++ [(.unsubscribe token, .removed gone)]) = given past := by
    rw [given_concat]
    exact List.append_nil _
  constructor
  · rw [tokens]
    exact follows.counted
  · rw [tokens]
    exact follows.numbered
  · rw [arrivals, List.filterMap_append]
    exact (List.filter_sublist.trans follows.ordered).trans (List.sublist_append_left _ _)
  · intro other interest
    have turned : other = token ↔ token = other := eq_comm
    simp [Hub.unsubscribe, stays_concat, ← follows.staying, turned]
  · intro other
    rw [tokens, ← follows.balanced other]
    by_cases same : other = token
    · subst same
      have left : ((hub.unsubscribe other).listeners.map Prod.fst).count other = 0 := by
        rw [List.count_eq_zero]
        simp [Hub.unsubscribe]
      have held := follows.nodup_listeners.count (a := other)
      have taken : takenBack (past ++ [(.unsubscribe other, .removed gone)]) other =
          takenBack past other + if gone then 1 else 0 := by
        cases gone <;> simp [takenBack, List.count_append]
      have agree : gone = true ↔ other ∈ hub.listeners.map Prod.fst := by
        rw [← flag, decide_eq_true_eq, follows.removed_iff, follows.held_iff]
      rw [left, held, taken]
      simp only [agree, Nat.add_zero]
    · have kept : ((hub.unsubscribe token).listeners.map Prod.fst).count other =
          (hub.listeners.map Prod.fst).count other := by
        change ((hub.listeners.filter ((· ≠ token) ∘ Prod.fst)).map Prod.fst).count other = _
        rw [← List.filter_map, List.count_filter (by simpa using same)]
      have untouched : takenBack (past ++ [(.unsubscribe token, .removed gone)]) other =
          takenBack past other := by
        simp [takenBack, List.count_append, Ne.symm same]
      rw [kept, untouched]

theorem route (follows : Follows hub past) (event : EditorEvent) :
    Follows hub (past ++ [(.route event, .reached (hub.route event))]) := by
  have tokens : given (past ++ [(.route event, .reached (hub.route event))]) = given past := by
    rw [given_concat]
    exact List.append_nil _
  constructor
  · rw [tokens]
    exact follows.counted
  · rw [tokens]
    exact follows.numbered
  · rw [arrivals, List.filterMap_append]
    exact follows.ordered.trans (List.sublist_append_left _ _)
  · intro token interest
    simp [stays_concat, follows.staying]
  · intro token
    rw [tokens, ← follows.balanced token]
    simp [takenBack, List.count_append]

theorem next (follows : Follows hub past) (call : HubCall) :
    Follows (hub.call call).1 (past ++ [(call, (hub.call call).2)]) := by
  cases call with
  | subscribe interest => exact follows.subscribe interest
  | unsubscribe token => exact follows.unsubscribe token
  | route event => exact follows.route event

theorem route_sublist (follows : Follows hub past) (event : EditorEvent) :
    (hub.route event).Sublist (given past) :=
  ((List.filter_sublist.trans follows.ordered).map Prod.fst)

theorem mem_route_iff (follows : Follows hub past) {event : EditorEvent} :
    token ∈ hub.route event ↔ ∃ interest, Stays past token interest ∧
      interest.kind = event.kind ∧
        (interest.document = none ∨ interest.document = event.document?) := by
  have turned (interest : Interest) : event.document? = interest.document ↔
      interest.document = event.document? := eq_comm
  simp [Hub.route, follows.staying, Interest.covers, turned]

theorem takenBack_iff (follows : Follows hub past) :
    takenBack past token = 1 ↔ token ∈ given past ∧ ¬ ∃ interest, Stays past token interest := by
  have balanced := follows.balanced token
  rw [follows.nodup_listeners.count, follows.nodup.count] at balanced
  rw [← follows.held_iff]
  have came : token ∈ hub.listeners.map Prod.fst → token ∈ given past :=
    fun held => (follows.ordered.map Prod.fst).subset held
  by_cases held : token ∈ hub.listeners.map Prod.fst
  · rw [if_pos held, if_pos (came held)] at balanced
    simp only [held, not_true_eq_false, and_false, iff_false]
    omega
  · rw [if_neg held, Nat.add_zero] at balanced
    rw [balanced]
    simp [held]

theorem takenBack_le (follows : Follows hub past) : takenBack past token ≤ 1 := by
  have bound : (given past).count token ≤ 1 := List.nodup_iff_count_le_one.mp follows.nodup token
  rw [← follows.balanced token] at bound
  exact Nat.le_of_add_right_le bound

end Follows

theorem history_concat (calls : List HubCall) (call : HubCall) :
    history (calls ++ [call]) =
      (((history calls).1.call call).1,
        (history calls).2 ++ [(call, ((history calls).1.call call).2)]) := by
  simp [history, List.foldl_append, record]

theorem follows_history (calls : List HubCall) : Follows (history calls).1 (history calls).2 := by
  induction calls using List.reverseRecOn with
  | nil => exact follows_empty
  | append_singleton front last ih =>
      rw [history_concat]
      exact ih.next last

theorem calls_of_history (calls : List HubCall) : (history calls).2.map Prod.fst = calls := by
  induction calls using List.reverseRecOn with
  | nil => rfl
  | append_singleton front last ih => simp [history_concat, ih]

/-- What a hub with some past has answered, and what it answers next. -/
structure Answers (hub : Hub) (past : Past) : Prop where
  distinct : (given past).Nodup
  /-- No token is larger than the number of listeners that have come. -/
  bounded : ∀ token ∈ given past, token ≤ (arrivals past).length
  takenOnce : ∀ token, takenBack past token ≤ 1 ∧
    (takenBack past token = 1 ↔ token ∈ given past ∧ ¬ ∃ interest, Stays past token interest)
  inPlace : hub.listeners.Sublist (arrivals past) ∧
    ∀ token interest, (token, interest) ∈ hub.listeners ↔ Stays past token interest
  subscribe : ∀ interest, ∃ token, token ∉ given past ∧
    hub.call (.subscribe interest) =
      (⟨token, hub.listeners ++ [(token, interest)]⟩, .given token)
  unsubscribe : ∀ token, ∃ gone,
    hub.call (.unsubscribe token) =
      ({ hub with listeners := hub.listeners.filter (·.1 ≠ token) }, .removed gone) ∧
    (gone = true ↔ ∃ interest, Stays past token interest)
  route : ∀ event, ∃ tokens,
    hub.call (.route event) = (hub, .reached tokens) ∧ tokens.Nodup ∧
    tokens.Sublist (given past) ∧
    ∀ token, token ∈ tokens ↔ ∃ interest, Stays past token interest ∧
      interest.kind = event.kind ∧
        (interest.document = none ∨ interest.document = event.document?)

/-- Whatever is asked of a hub in whatever order, it gives no token twice, takes each token back at
most once and only while its listener is there, and an event reaches, in the order in which they
came, exactly the listeners that are still there and want to hear it. -/
theorem answers_history (calls : List HubCall) :
    Answers (history calls).1 (history calls).2 ∧ (history calls).2.map Prod.fst = calls := by
  have follows := follows_history calls
  refine ⟨?_, calls_of_history calls⟩
  constructor
  · exact follows.nodup
  · intro token known
    simpa [given] using follows.le_of_given known
  · exact fun token => ⟨follows.takenBack_le, follows.takenBack_iff⟩
  · exact ⟨follows.ordered, follows.staying⟩
  · exact fun interest => ⟨_, follows.fresh, rfl⟩
  · exact fun token => ⟨_, rfl, by rw [decide_eq_true_eq, follows.removed_iff]⟩
  · intro event
    have within := follows.route_sublist event
    exact ⟨_, rfl, within.nodup follows.nodup, within, fun token => follows.mem_route_iff⟩

end LiveSelector.Hub
