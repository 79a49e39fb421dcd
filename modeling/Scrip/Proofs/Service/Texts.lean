import Scrip.Proofs.Error.Cancellation
import Scrip.Proofs.Work.Texts
import Scrip.Service.Checkout
import Scrip.Service.Identity
import Scrip.Service.Suggestions
import Scrip.Service.TopUps
set_option autoImplicit false

/-! # Services and internal texts

No service lets an internal text out but in the note of a failed purchase, and none reads such a
note: every service comes to the same whatever the texts of failures and the notes in the log are.
Where a service returns a row of the log, the row is the same but for its note.
-/

namespace Scrip

open Script

namespace Script

variable {α : Type}

theorem discreet_ofExcept {r : Except Failure α} (h : Uncancelled r) : (ofExcept r).Discreet := by
  refine .done ?_
  cases r with
  | ok a => exact .ok rfl
  | error e => exact .error (Failure.akin_self (h e rfl))

theorem discreet_require (r : Except Refusal α) : (require r).Discreet :=
  discreet_ofExcept (uncancelled_mapError r)

end Script

variable {account id : Int} {now : Moment}

/-! ## Credits and callers -/

namespace Credits

theorem discreet_found (account : Int) (balance : Option Int) :
    (found account balance).Discreet := by
  cases balance with
  | none => exact discreet_refuse _
  | some n => exact discreet_pure n

theorem discreet_balance : (balance account).Discreet :=
  discreet_bind (discreet_exec rfl) (discreet_found account)

theorem discreet_lockBalance : (lockBalance account).Discreet :=
  discreet_bind (discreet_exec rfl) (discreet_found account)

theorem discreet_add (amount : Quantity) : (add account amount).Discreet := by
  refine discreet_bind (discreet_exec rfl) fun done => ?_
  split
  · exact discreet_pure ()
  · exact discreet_refuse _

theorem discreet_deduct (amount : Quantity) : (deduct account amount).Discreet := by
  refine discreet_bind (discreet_exec rfl) fun done => ?_
  split
  · exact discreet_pure true
  · exact discreet_bind discreet_balance fun _ => discreet_pure false

end Credits

theorem Identity.discreet_resolve (ttlSeconds : Int) (now : Moment) (credential : String) :
    (resolve ttlSeconds now credential).Discreet := by
  refine discreet_bind (discreet_ofExcept (uncancelled_cutoff _ _)) fun after =>
    discreet_bind (discreet_exec rfl) fun account => ?_
  cases account with
  | none => exact discreet_refuse _
  | some a => exact discreet_pure _

theorem Identity.discreet_authenticate (ttlSeconds : Int) (now : Moment)
    (header : Option String) : (authenticate ttlSeconds now header).Discreet :=
  discreet_bind (discreet_require _) fun _ => discreet_resolve _ _ _

/-! ## The log -/

namespace Journal

theorem like_appendTopUp (credits cents : Int) (method : String) (reference : Option String) :
    Like (Matches Transaction.SameRow) (appendTopUp account credits cents method reference now)
      (appendTopUp account credits cents method reference now) :=
  like_append rfl

theorem like_appendPurchase (item price : Int) (status : Status) (note note' : Option String) :
    Like (Matches Transaction.SameRow) (appendPurchase account item price status note now)
      (appendPurchase account item price status note' now) :=
  like_append rfl

theorem like_get (lock : Bool) :
    Like (Matches Transaction.SameRow) (get id lock) (get id lock) := by
  refine like_seq (like_exec (.find id lock)) fun row row' hrow => ?_
  replace hrow : row'.map Transaction.unnoted = row.map Transaction.unnoted := hrow
  cases row with
  | none =>
      obtain rfl := Option.map_eq_none_iff.mp hrow
      exact like_refuse _
  | some t =>
      obtain ⟨t', rfl, ht⟩ := Option.map_eq_some_iff.mp hrow
      exact like_pure ht

theorem like_updateStatus (new : Status) :
    Like (Matches Transaction.SameRow) (updateStatus id new now) (updateStatus id new now) := by
  refine like_seq (like_get true) fun t t' ht => ?_
  obtain ⟨note, rfl⟩ := ht.exists_note
  refine like_same (discreet_ofExcept (Status.uncancelled_read _)) fun current =>
    like_same (discreet_ofExcept (Kind.uncancelled_read _)) fun kind =>
      like_same (discreet_require _) fun _ => like_same (discreet_exec rfl) fun moved => ?_
  split
  · exact like_pure rfl
  · exact like_refuse _

theorem discreet_history (limit : Option Int) : (history account limit).Discreet := by
  refine like_seq (like_exec (.history account limit)) fun rows rows' hrows => ?_
  replace hrows : rows'.map (Prod.map Transaction.unnoted id) =
      rows.map (Prod.map Transaction.unnoted id) := hrows
  -- a record has no note
  have hrecords : ∀ rows : List (Transaction × Option String),
      rows.mapM record = (rows.map (Prod.map Transaction.unnoted id)).mapM record := by
    intro rows
    induction rows with
    | nil => rfl
    | cons row rows ih =>
        rw [List.map_cons, List.mapM_cons, List.mapM_cons, ih]
        rfl
  show Like _ (ofExcept (rows.mapM record)) (ofExcept (rows'.mapM record))
  rw [hrecords rows', hrows, ← hrecords rows]
  exact discreet_ofExcept (uncancelled_mapM uncancelled_record rows)

theorem discreet_stats (now : DateTime) : (stats account now).Discreet :=
  discreet_bind (discreet_history none) fun _ => discreet_pure _

theorem discreet_purchaseCounts : purchaseCounts.Discreet := discreet_exec rfl

end Journal

/-! ## Ownerships and recommendations -/

namespace Registry

theorem discreet_owns : (owns account id).Discreet := discreet_exec rfl

theorem discreet_grant (t : Int) : (grant account id t).Discreet := discreet_exec rfl

theorem discreet_shelf : (shelf account).Discreet := by
  refine like_seq (like_exec (.shelf account)) fun entries entries' hentries => ?_
  replace hentries : entries'.map (Prod.map id Transaction.unnoted) =
      entries.map (Prod.map id Transaction.unnoted) := hentries
  have hshown : ∀ entries : List (Item × Transaction),
      entries.map ShelfEntry.of = (entries.map (Prod.map id Transaction.unnoted)).map
        ShelfEntry.of := by
    intro entries
    rw [List.map_map]
    rfl
  refine like_pure ?_
  rw [hshown entries, ← hentries, ← hshown entries']

theorem discreet_download : (download account id).Discreet := by
  refine discreet_bind discreet_owns fun owned => ?_
  split
  · refine discreet_bind (discreet_exec rfl) fun row => ?_
    cases fileOf row with
    | none => exact discreet_refuse _
    | some file => exact discreet_pure file
  · exact discreet_refuse _

end Registry

namespace Suggestions

variable {α : Type} {load : Script α}

theorem discreet_guarded (h : load.Discreet) : (guarded load).Discreet := by
  refine discreet_bind (discreet_exec rfl) fun _ => like_attempt h fun r r' hr => ?_
  cases hr with
  | ok heq =>
      subst heq
      exact discreet_bind (discreet_exec rfl) fun _ => discreet_pure _
  | error he => exact like_same (discreet_exec rfl) fun _ => like_fail he

/-- Whether a signal is absent depends on the class of a failure only. -/
theorem discreet_optional (h : load.Discreet) : (Suggestions.optional load).Discreet := by
  refine like_attempt (discreet_guarded h) fun r r' hr => ?_
  cases hr with
  | ok heq =>
      subst heq
      exact discreet_pure _
  | error he =>
      simp only [he.isStorage]
      split
      · exact discreet_pure none
      · exact like_fail he

theorem discreet_signals : (signals account).Discreet :=
  discreet_bind (discreet_exec rfl) fun _ =>
    discreet_bind (discreet_optional (discreet_exec rfl)) fun _ =>
      discreet_bind (discreet_optional (discreet_exec rfl)) fun _ =>
        discreet_bind (discreet_optional Journal.discreet_purchaseCounts) fun _ =>
          discreet_pure _

theorem discreet_recommend (limit : Int) : (recommend account limit).Discreet :=
  discreet_bind discreet_signals fun _ => discreet_bind (discreet_exec rfl) fun _ =>
    discreet_ofExcept (Recommendation.uncancelled_recommend _ _ _)

end Suggestions

/-! ## Top-ups -/

namespace TopUps

theorem like_request (settings : Settings) (amount : Amount) (method : String)
    (reference : Option String) :
    Like (Matches Transaction.SameRow) (request settings now account amount method reference)
      (request settings now account amount method reference) :=
  like_same (discreet_ofExcept (uncancelled_quote settings amount)) fun _ =>
    like_seq (Journal.like_appendTopUp _ _ _ _) fun _ _ ht =>
      like_same (discreet_exec rfl) fun _ => like_pure ht

theorem like_settle (approved : Bool) :
    Like (Matches Transaction.SameRow) (settle now id approved) (settle now id approved) := by
  refine like_seq (Journal.like_get false) fun located located' hlocated => ?_
  obtain ⟨note, rfl⟩ := hlocated.exists_note
  refine like_seq (Journal.like_updateStatus _) fun t t' ht => ?_
  obtain ⟨note', rfl⟩ := ht.exists_note
  split
  · exact like_same (Credits.discreet_add _) fun _ =>
      like_same (discreet_exec rfl) fun _ => like_pure ht
  · exact like_same (discreet_exec rfl) fun _ => like_pure ht

end TopUps

/-! ## Purchases -/

namespace Checkout

open Purchase

variable {item : Item}

/-- Ends of the writes of a purchase that do not differ but in the text of a failure. -/
inductive Ending.Akin : Ending → Ending → Prop where
  | ok (o : Outcome) : Akin (.ok o) (.ok o)
  | error (stage : Stage) {e e' : Failure} (h : e.Akin e') :
      Akin (.error (stage, e)) (.error (stage, e'))

theorem like_shortfall :
    Like (Matches Ending.Akin) (shortfall account item) (shortfall account item) := by
  have hfound : (do exec .rollback; Credits.balance account : Script Int).Discreet :=
    discreet_bind (discreet_exec rfl) fun _ => Credits.discreet_balance
  refine like_attempt hfound fun r r' hr => ?_
  cases hr with
  | ok heq =>
      subst heq
      exact like_pure (.ok _)
  | error he => exact like_pure (.error .debiting he)

theorem like_entitle {t t' : Transaction} (ht : t.SameRow t') :
    Like (Matches Ending.Akin) (entitle account item t) (entitle account item t') := by
  obtain ⟨note, rfl⟩ := ht.exists_note
  have hleft : (do
      let _ ← Registry.grant account item.id t.id
      let remaining ← Credits.balance account
      exec .commit
      return remaining : Script Int).Discreet :=
    discreet_bind (Registry.discreet_grant _) fun _ =>
      discreet_bind Credits.discreet_balance fun _ =>
        discreet_bind (discreet_exec rfl) fun _ => discreet_pure _
  refine like_attempt hleft fun r r' hr => ?_
  cases hr with
  | ok heq =>
      subst heq
      exact like_pure (.ok _)
  | error he => exact like_pure (.error .granting he)

theorem like_write : Like (Matches Ending.Akin) (write now account item)
    (write now account item) := by
  refine like_attempt (Credits.discreet_deduct _) fun r r' hr => ?_
  cases hr with
  | error he => exact like_pure (.error .debiting he)
  | @ok done _ heq =>
      subst heq
      cases done with
      | false => exact like_shortfall
      | true =>
          refine like_attempt (Journal.like_appendPurchase _ _ _ none none) fun r r' hr => ?_
          cases hr with
          | ok ht => exact like_entitle ht
          | error he => exact like_pure (.error .recording he)

theorem discreet_compensate : compensate.Discreet := by
  refine like_attempt (discreet_exec rfl) fun r r' hr => ?_
  cases hr with
  | ok _ => exact discreet_pure ()
  | error he =>
      simp only [he.isStorage]
      split
      · exact discreet_exec (q := .invalidate) rfl
      · exact like_fail he

/-- The note of a failure is all that its text goes into. -/
theorem like_giveUp (stage : Stage) {e e' : Failure} :
    Like (Matches Eq) (giveUp now account item stage e) (giveUp now account item stage e') := by
  refine like_attempt (like_seq (Journal.like_appendPurchase _ _ _ _ _)
    fun _ _ _ => discreet_exec (q := .commit) rfl) fun r r' hr => ?_
  cases hr with
  | ok _ => exact discreet_bind (discreet_pure ()) fun _ => discreet_pure _
  | error he =>
      simp only [he.isCancellation]
      exact discreet_bind (discreet_exec rfl) fun _ => discreet_pure _

theorem like_recover (stage : Stage) {e e' : Failure} (he : e.Akin e') :
    Like (Matches Eq) (recover now account item stage e) (recover now account item stage e') := by
  unfold recover
  simp only [he.isCancellation, he.isIntegrity]
  refine like_same discreet_compensate fun _ => ?_
  split
  · exact discreet_pure _
  · exact like_giveUp stage

theorem discreet_buy : (buy now account id).Discreet := by
  refine discreet_bind (discreet_exec rfl) fun found =>
    discreet_bind Credits.discreet_lockBalance fun balance =>
      discreet_bind Registry.discreet_owns fun owned => ?_
  cases choose id found owned balance with
  | error d => exact discreet_bind (discreet_exec rfl) fun _ => discreet_pure _
  | ok item =>
      refine like_seq like_write fun ending ending' hending => ?_
      cases hending with
      | ok outcome => exact discreet_pure outcome
      | error stage he => exact like_recover stage he

theorem discreet_purchase : (purchase now account id).Discreet := like_unitOfWork discreet_buy

theorem discreet_preview : (preview account id).Discreet := by
  refine like_unitOfWork (discreet_bind (discreet_exec rfl) fun found =>
    discreet_bind Registry.discreet_owns fun owned => ?_)
  cases found with
  | none => exact discreet_refuse _
  | some item =>
      dsimp only
      split
      · exact discreet_bind Credits.discreet_balance fun _ => discreet_pure _
      · exact discreet_refuse _

end Checkout

end Scrip
