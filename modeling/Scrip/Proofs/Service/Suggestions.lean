import Scrip.Proofs.Ledger.Views
import Scrip.Proofs.Recommendation.Absent
import Scrip.Proofs.Work.Struck
set_option autoImplicit false

/-! # Suggestions under faults

A fault of the storage in the load of a signal, or in the savepoint around it, makes the signal
absent and has no other effect. What an account then gets is what it would get with that signal
empty, and it gets as many recommendations as if nothing had failed.
-/

namespace Scrip

/-- The signals of an account, with nothing absent. -/
def Store.signals (s : Store) (account : Int) : Signals where
  owned := s.ownedIds account
  subjects := some (s.ownedSubjects account)
  levels := some (s.ownedLevels account)
  counts := some s.tallies

def Store.unowned (s : Store) (account : Int) : List Item :=
  s.items.filter fun item => item.published && !s.owns account item.id

/-- The statement that loads a signal. -/
def Signals.Source.load (account : Int) : Signals.Source → Statement
  | subjects => .ownedSubjects account
  | levels => .ownedLevels account
  | counts => .tallies

namespace Faults

variable (f : Faults)

/-- Whether a load fails, in its savepoint or by itself, after the statements `before`. -/
def spoils (before : List Statement) (q : Statement) : Bool :=
  (f.strike? before .savepoint).isSome || (f.strike? (.savepoint :: before) q).isSome ||
    (f.strike? (q :: .savepoint :: before) .release).isSome

/-- The statements up to the end of a load: a failed savepoint is not opened, and after a failed
load the session goes back to it. -/
def afterLoad (before : List Statement) (q : Statement) : List Statement :=
  if (f.strike? before .savepoint).isSome then .savepoint :: before
  else if (f.strike? (.savepoint :: before) q).isSome then .rewind :: q :: .savepoint :: before
  else .release :: q :: .savepoint :: before

/-- The statements up to the load of a signal, for an account whose recommendations are asked for
after the statements `before`. -/
def upTo (account : Int) (before : List Statement) (source : Signals.Source) : List Statement :=
  let first := .ownedIds account :: before
  match source with
  | .subjects => first
  | .levels => f.afterLoad first (.ownedSubjects account)
  | .counts => f.afterLoad (f.afterLoad first (.ownedSubjects account)) (.ownedLevels account)

def loses (account : Int) (before : List Statement) (source : Signals.Source) : Bool :=
  f.spoils (f.upTo account before source) (source.load account)

/-- The faults are faults of the storage, and they strike nothing but the loads of the signals of
an account and the savepoints around them. -/
structure HitSignals (account : Int) : Prop where
  storage : ∀ before q e, f.strike? before q = some e → e.isStorage = true
  sites : ∀ before q e, f.strike? before q = some e →
    q = .savepoint ∨ q = .release ∨ q = .rewind ∨ ∃ source : Signals.Source, q = source.load account

theorem HitSignals.spares {f : Faults} {account : Int} (h : f.HitSignals account) (q : Statement)
    (hq : q ≠ .savepoint ∧ q ≠ .release ∧ q ≠ .rewind ∧
      ∀ source : Signals.Source, q ≠ source.load account) (before : List Statement) :
    f.strike? before q = none := by
  refine Option.eq_none_iff_forall_ne_some.mpr fun e he => ?_
  rcases h.sites before q e he with h | h | h | ⟨source, h⟩
  · exact hq.1 h
  · exact hq.2.1 h
  · exact hq.2.2.1 h
  · exact hq.2.2.2 source h

end Faults

namespace Suggestions

open Script

variable {f : Faults} {v : Store} {account : Int} {before : List Statement}

/-! ## One load -/

section

variable {q : Statement} {reply : q.Reply} (hq : q.isReading = true)
  (h : q.answer v = .ok (reply, []))

include hq h

/-- A load that nothing spoils comes to its reply. -/
theorem comes_guarded (hspoils : f.spoils before q = false) :
    Comes f v (guarded (exec q)) before (.ok reply) (f.afterLoad before q) := by
  simp only [Faults.spoils, Bool.or_eq_false_iff, Option.isSome_eq_false_iff,
    Option.isNone_iff_eq_none] at hspoils
  obtain ⟨⟨hsavepoint, hload⟩, hrelease⟩ := hspoils
  have hafter : f.afterLoad before q = .release :: q :: .savepoint :: before := by
    simp [Faults.afterLoad, hsavepoint, hload]
  rw [hafter]
  refine comes_bind (comes_spared (q := .savepoint) rfl rfl hsavepoint) ?_
  refine comes_bind (comes_attempt (comes_spared hq h hload)) ?_
  exact comes_bind (comes_spared (q := .release) rfl rfl hrelease) (comes_done _)

/-- A spoilt load comes to one of the failures that the faults give. -/
theorem comes_guarded_spoilt (hspoils : f.spoils before q = true) :
    ∃ e, (∃ before' q', f.strike? before' q' = some e) ∧
      Comes f v (guarded (exec q)) before (.error e) (f.afterLoad before q) := by
  cases hsavepoint : f.strike? before .savepoint with
  | some e =>
      refine ⟨e, ⟨_, _, hsavepoint⟩, ?_⟩
      simp only [Faults.afterLoad, hsavepoint, Option.isSome_some, if_true]
      exact comes_bind_error (comes_struck (q := .savepoint) rfl rfl hsavepoint)
  | none =>
      cases hload : f.strike? (.savepoint :: before) q with
      | some e =>
          simp only [Faults.afterLoad, hsavepoint, hload, Option.isSome_none, Option.isSome_some,
            Bool.false_eq_true, if_false, if_true]
          -- where going back fails too, its failure takes the place of the first
          cases hrewind : f.strike? (q :: .savepoint :: before) .rewind with
          | some e' =>
              refine ⟨e', ⟨_, _, hrewind⟩, ?_⟩
              refine comes_bind (comes_spared (q := .savepoint) rfl rfl hsavepoint) ?_
              refine comes_bind (comes_attempt (comes_struck hq h hload)) ?_
              exact comes_bind_error (comes_struck (q := .rewind) rfl rfl hrewind)
          | none =>
              refine ⟨e, ⟨_, _, hload⟩, ?_⟩
              refine comes_bind (comes_spared (q := .savepoint) rfl rfl hsavepoint) ?_
              refine comes_bind (comes_attempt (comes_struck hq h hload)) ?_
              exact comes_bind (comes_spared (q := .rewind) rfl rfl hrewind) (comes_done _)
      | none =>
          simp only [Faults.spoils, hsavepoint, hload, Option.isSome_none, Bool.or_false,
            Bool.false_or] at hspoils
          obtain ⟨e, hrelease⟩ := Option.isSome_iff_exists.mp hspoils
          refine ⟨e, ⟨_, _, hrelease⟩, ?_⟩
          simp only [Faults.afterLoad, hsavepoint, hload, Option.isSome_none, Bool.false_eq_true,
            if_false]
          refine comes_bind (comes_spared (q := .savepoint) rfl rfl hsavepoint) ?_
          refine comes_bind (comes_attempt (comes_spared hq h hload)) ?_
          exact comes_bind_error (comes_struck (q := .release) rfl rfl hrelease)

/-- A signal is absent exactly if its load is spoilt. -/
theorem comes_optional (hf : f.HitSignals account) :
    Comes f v (optional (exec q)) before
      (.ok (if f.spoils before q then none else some reply)) (f.afterLoad before q) := by
  cases hspoils : f.spoils before q with
  | false => exact comes_bind (comes_attempt (comes_guarded hq h hspoils)) (comes_done _)
  | true =>
      obtain ⟨e, ⟨before', q', hstrike⟩, hload⟩ := comes_guarded_spoilt hq h hspoils
      refine comes_bind (comes_attempt hload) ?_
      simp only [hf.storage before' q' e hstrike, if_true]
      exact comes_done _

end

/-! ## All loads -/

/-- What is known about an account are its signals without those whose load has failed. -/
theorem comes_signals (hf : f.HitSignals account) :
    Comes f v (signals account) before
      (.ok ((v.signals account).without (f.loses account before)))
      (f.afterLoad (f.upTo account before .counts) .tallies) := by
  have howned : f.strike? before (.ownedIds account) = none :=
    hf.spares (.ownedIds account) ⟨nofun, nofun, nofun, by rintro ⟨⟩ <;> exact nofun⟩ before
  refine comes_bind (comes_spared (q := .ownedIds account) rfl rfl howned) ?_
  refine comes_bind (comes_optional (q := .ownedSubjects account) rfl rfl hf) ?_
  refine comes_bind (comes_optional (q := .ownedLevels account) rfl rfl hf) ?_
  exact comes_bind (comes_optional (q := .tallies) rfl rfl hf) (comes_done _)

theorem comes_recommend (hf : f.HitSignals account) (v : Store) (before : List Statement)
    (limit : Int) :
    ∃ after, Comes f v (recommend account limit) before
      (Recommendation.recommend v.published
        ((v.signals account).without (f.loses account before)) limit) after := by
  have hcatalog : ∀ before, f.strike? before .published = none :=
    hf.spares .published ⟨nofun, nofun, nofun, by rintro ⟨⟩ <;> exact nofun⟩
  exact ⟨_, comes_bind (comes_signals hf)
    (comes_bind (comes_spared (q := .published) rfl rfl (hcatalog _)) (comes_done _))⟩

/-! ## The catalog -/

theorem nodup_published (hids : (v.items.map (·.id)).Nodup) :
    (v.published.map (·.id)).Nodup := by
  have hsort := List.mergeSort_perm (v.items.filter (·.published)) fun a b => decide (a.id ≤ b.id)
  refine (hsort.map (·.id)).nodup_iff.mpr ?_
  exact Recommendation.nodup_filter_ids hids _

/-- What may be picked from the catalog are the published items that the account does not own. -/
theorem candidates_perm (v : Store) (account : Int) :
    (Recommendation.candidates v.published (v.ownedIds account)).Perm (v.unowned account) := by
  have hsort := List.mergeSort_perm (v.items.filter (·.published)) fun a b => decide (a.id ≤ b.id)
  have howns : ∀ id, (v.ownedIds account).contains id = v.owns account id := by
    intro id
    rw [Bool.eq_iff_iff, List.contains_iff_mem]
    exact Store.mem_ownedIds
  have hcandidates := hsort.filter fun item : Item =>
    item.published && !(v.ownedIds account).contains item.id
  refine hcandidates.trans (List.Perm.of_eq ?_)
  rw [List.filter_filter, Store.unowned]
  refine List.filter_congr fun item _ => ?_
  rw [howns]
  cases item.published <;> simp

/-- **Absent signals count as empty ones.** For the pipeline of tiers they are the same. So where
the loads of some signals fail, an account still gets recommendations, those of an account with
these signals empty, and as many as are asked for as long as there are items that it does not
own. -/
theorem absent_signals_are_empty :
    (∀ catalog (s : Signals) lost limit tiers,
      Recommendation.recommend catalog (s.without lost) limit tiers =
        Recommendation.recommend catalog (s.emptied lost) limit tiers) ∧
    ∀ (f : Faults) (st : Session) (account limit : Int), f.HitSignals account → 1 ≤ limit →
      (st.view.items.map (·.id)).Nodup → Recommendation.Comparable st.view.published →
      ∃ picks, ((recommend account limit).run (.failing f) st).1 = .ok picks ∧
        Recommendation.recommend st.view.published
          ((st.view.signals account).emptied (f.loses account st.trace)) limit = .ok picks ∧
        (picks.length : Int) = min limit (st.view.unowned account).length := by
  refine ⟨fun _ s lost limit _ => Recommendation.recommend_without s lost limit, ?_⟩
  intro f st account limit hf hlimit hids hdates
  -- the run comes to the pipeline without the lost signals, which is the one with them empty
  obtain ⟨after, hcomes⟩ := comes_recommend hf st.view st.trace limit
  have hrecency : .recency ∈ Tier.standard := by decide
  obtain ⟨picks, hpicks, hlength⟩ := Recommendation.length_recommend (nodup_published hids) hdates
    hrecency ((st.view.signals account).emptied (f.loses account st.trace)) limit
  refine ⟨picks, ?_, hpicks, ?_⟩
  · rw [(hcomes st rfl rfl).1, Recommendation.recommend_without]
    exact hpicks
  · -- the catalog is sorted, but a list of published items all the same
    have hcount : (Recommendation.candidates st.view.published (st.view.ownedIds account)).length =
        (st.view.unowned account).length := (candidates_perm st.view account).length_eq
    have hlength' : picks.length = min limit.toNat (st.view.unowned account).length := by
      rw [← hcount]
      exact hlength
    omega

/-- A shop where an account owns an item and another one has bought two. -/
def market : Store where
  items := Recommendation.shelves
  transactions := [
    (Journal.purchaseDraft 1 1 5 .completed none 0).row 1,
    (Journal.purchaseDraft 2 4 3 .completed none 0).row 2,
    (Journal.purchaseDraft 2 2 2 .failed (some "IntegrityError: ") 0).row 3,
    (Journal.purchaseDraft 2 3 2 .completed none 0).row 4]
  ownerships := [⟨1, 1, 1, 1⟩, ⟨2, 2, 4, 2⟩, ⟨3, 2, 3, 4⟩]

/-- The savepoint for the subjects cannot be opened, the levels cannot be read, and there is no
going back. -/
def outage : Faults where
  early before q :=
    match q with
    | .savepoint => if before = [.ownedIds 1] then some (.storage .operational "busy") else none
    | .ownedLevels 1 => some (.storage .data "timeout")
    | .rewind => some (.storage .other "gone")
    | _ => none

theorem outage_hitSignals : outage.HitSignals 1 := by
  have hstrike : ∀ before q e, outage.strike? before q = some e →
      e.isStorage = true ∧
        (q = .savepoint ∨ q = .rewind ∨ q = Signals.Source.levels.load 1) := by
    intro before q e h
    simp only [Faults.strike?, outage, Option.or_none] at h
    split at h
    · split at h
      · obtain rfl := Option.some.inj h
        exact ⟨rfl, Or.inl rfl⟩
      · cases h
    · obtain rfl := Option.some.inj h
      exact ⟨rfl, Or.inr (Or.inr rfl)⟩
    · obtain rfl := Option.some.inj h
      exact ⟨rfl, Or.inr (Or.inl rfl)⟩
    · cases h
  refine ⟨fun before q e h => (hstrike before q e h).1, fun before q e h => ?_⟩
  rcases (hstrike before q e h).2 with rfl | rfl | rfl
  · exact Or.inl rfl
  · exact Or.inr (Or.inr (Or.inl rfl))
  · exact Or.inr (Or.inr (Or.inr ⟨.levels, rfl⟩))

/-- Two of the three signals are lost, and there are still three recommendations. -/
theorem absent_signals_are_empty_outage :
    [Signals.Source.subjects, .levels, .counts].map (outage.loses 1 []) = [true, true, false] ∧
      ∃ picks, ((recommend 1 3).run (.failing outage) (Session.start market)).1 = .ok picks ∧
        picks.map (fun p => (p.item.id, p.tier, p.popularity)) =
          [(3, .popularity, 1), (4, .popularity, 1), (6, .recency, 0)] ∧
        (picks.length : Int) = min 3 (market.unowned 1).length := by
  have hids : (market.items.map (·.id)).Nodup := by decide
  have hdates : Recommendation.Comparable market.published :=
    Or.inr (by simp [Store.published, market, Recommendation.shelves, DateTime.utc])
  obtain ⟨picks, hrun, hpure, hlength⟩ := absent_signals_are_empty.2 outage (Session.start market) 1
    3 outage_hitSignals (by decide) hids hdates
  refine ⟨by decide, picks, hrun, ?_, hlength⟩
  have hcounts : market.tallies = [(1, 1), (3, 1), (4, 1)] := by cbv
  have hsignals : (market.signals 1).emptied (outage.loses 1 []) =
      { owned := [1], counts := some market.tallies } := by
    rfl
  have hvalue : (Recommendation.recommend market.published
      ((market.signals 1).emptied (outage.loses 1 [])) 3).toOption.map
        (·.map fun p => (p.item.id, p.tier, p.popularity)) =
      some [(3, .popularity, 1), (4, .popularity, 1), (6, .recency, 0)] := by
    rw [hsignals, hcounts]
    cbv
  have hpicks : Recommendation.recommend market.published
      ((market.signals 1).emptied (outage.loses 1 [])) 3 = .ok picks := hpure
  rw [hpicks] at hvalue
  exact Option.some.inj hvalue

end Suggestions

end Scrip
