import Scrip.Proofs.Service.Checkout
import Scrip.Proofs.Service.Reading
import Scrip.Proofs.Service.TopUps
import Scrip.Service.Operation
set_option autoImplicit false

/-! # Every operation is safe

Whatever an operation that is offered to callers commits, it is a deed. The operations that
write are purchases, requests and settlements (`Operation.Commits`); all others only read.
-/

namespace Scrip

open Script

variable {α β : Type} {may : Statement → Failure → Prop} {P : List (Store × List Write) → Prop}

/-! ## Work that leaves nothing behind -/

/-- Work that succeeds leaves nothing pending. -/
def Script.Tidy (r : Except Failure α) (c : Course) : Prop :=
  match r with
  | .ok _ => c.pending = []
  | .error _ => True

/-- Work is tidy, and what it has committed satisfies a property. -/
def Script.TidyWith (P : List (Store × List Write) → Prop) (r : Except Failure α) (c : Course) :
    Prop :=
  Tidy r c ∧ P c.deeds

/-- A property of what was committed that no commit of nothing can break. -/
structure Lenient (P : List (Store × List Write) → Prop) : Prop where
  nil : P []
  snoc : ∀ ds s, P ds → P (ds ++ [(s, [])])

theorem Script.safe_map {p : Script α} {f : α → β} {c : Course} (h : Safe may p (TidyWith P) c) :
    Safe may (do return f (← p)) (TidyWith P) c := by
  refine safe_bind (h.mono ?_)
  rintro (e | a) c' hc'
  · exact ⟨trivial, hc'.2⟩
  · exact hc'

theorem Script.Reads.tidy {p : Script α} (h : p.Reads) (hnil : P []) (s : Store) :
    Safe may p (TidyWith P) (.fresh s) := by
  refine h.safe fun r s' _ => ⟨?_, hnil⟩
  cases r with
  | error e => trivial
  | ok a => rfl

theorem Script.safe_ownWork {work : Script α} {s : Store} (hnil : P [])
    (h : ∀ s', Safe may work (fun _ c => P c.deeds) (.fresh s')) :
    Safe may (unitOfWork work) (fun _ c => P c.deeds) (.fresh s) := by
  have hclosed : Safe may (unitOfWork work) (Closed fun _ ds => P ds) (.fresh s) := by
    refine safe_unitOfWork (fun _ => hnil) fun s' _ => (h s').mono ?_
    rintro (e | a) c hc
    · exact fun _ => hc
    · exact ⟨hc, fun _ _ => hc⟩
  exact hclosed.mono fun _ _ hc => hc.2

/-- The commit at the end of work that has left nothing pending does nothing. -/
theorem Script.safe_committing {work : Script α} {s : Store} (hP : Lenient P)
    (h : ∀ s', Safe may work (TidyWith P) (.fresh s')) :
    Safe may (committing work) (fun _ c => P c.deeds) (.fresh s) := by
  refine safe_ownWork hP.nil fun s' => safe_bind ((h s').mono ?_)
  rintro (e | a) c ⟨hpending, hc⟩
  · exact hc
  · refine safe_bind (safe_commit ?_ ?_)
    · intro s'' e _
      exact hc
    · intro s'' _
      rw [show c.pending = [] from hpending]
      exact ⟨Deed.nothing, hP.snoc _ s'' hc⟩

/-! ## Operations -/

namespace Operation

variable (settings : Settings) (now : Moment)

/-- What an operation that writes has committed when its work ends. -/
def Commits : Operation → Course → Prop
  | purchase account item, c => ∃ r, Checkout.Bought now account item r c.deeds
  | requestTopUp account _ method reference, c =>
    ∃ amount r, TopUps.Requested settings now account amount method reference r c
  | settle transaction approved, c => ∃ r, TopUps.Settled now transaction approved r c
  | _, _ => False

/-- Whether an operation only reads, in a unit of work that is given. -/
def isReading : Operation → Bool
  | purchase _ _ => false
  | preview _ _ => false
  | requestTopUp _ _ _ _ => false
  | settle _ _ => false
  | op => op.isOffered

/-- An operation that reads asks for nothing else. -/
theorem reads_script {op : Operation} (h : op.isReading = true) :
    (op.script settings now).Reads := by
  cases op with
  | getBalance account => exact asks_bind (Credits.asks_balance rfl) fun _ => asks_done _
  | lockBalance account =>
      exact asks_bind (Credits.asks_lockBalance rfl) fun _ => asks_done _
  | resolve credential ttl now' =>
      exact asks_bind (Identity.reads_resolve ttl now' credential) fun _ => asks_done _
  | getTransaction id => exact asks_bind (Journal.reads_get id false) fun _ => asks_done _
  | history account limit =>
      exact asks_bind (Journal.asks_history rfl) fun _ => asks_done _
  | stats account now' => exact asks_bind (Journal.asks_stats rfl) fun _ => asks_done _
  | purchaseCounts => exact asks_bind (asks_exec rfl) fun _ => asks_done _
  | owns account item => exact asks_bind (asks_exec rfl) fun _ => asks_done _
  | shelf account => exact asks_bind (Registry.asks_shelf rfl) fun _ => asks_done _
  | download account item =>
      exact asks_bind (Registry.asks_download rfl rfl) fun _ => asks_done _
  | getItem item => exact asks_bind (asks_exec rfl) fun _ => asks_done _
  | published => exact asks_bind (asks_exec rfl) fun _ => asks_done _
  | recommend account limit =>
      exact asks_bind (Suggestions.reads_recommend account limit) fun _ => asks_done _
  | signals account =>
      refine asks_bind (asks_exec rfl) fun _ => asks_bind (asks_exec rfl) fun _ => ?_
      exact asks_bind (asks_exec rfl) fun _ => asks_done _
  | _ => cases h

variable {op : Operation}

theorem tidy_requestTopUp {account : Int} {amount method : String} {reference : Option String}
    (hnil : P [])
    (hop : ∀ c, Commits settings now (.requestTopUp account amount method reference) c →
      P c.deeds) (s : Store) :
    Safe may (script settings now (.requestTopUp account amount method reference)) (TidyWith P)
      (.fresh s) := by
  refine safe_bind ?_
  show Then _ may _ (amountOf amount) _
  cases amountOf amount with
  | error e => exact ⟨trivial, hnil⟩
  | ok a =>
      refine safe_map ((TopUps.safe_request s).mono ?_)
      rintro (e | row) c hc
      · exact ⟨trivial, hop c ⟨a, _, hc⟩⟩
      · exact ⟨hc.1, hop c ⟨a, _, hc⟩⟩

theorem tidy_settle {transaction : Int} {approved : Bool}
    (hop : ∀ c, Commits settings now (.settle transaction approved) c → P c.deeds) (s : Store) :
    Safe may (script settings now (.settle transaction approved)) (TidyWith P) (.fresh s) := by
  refine safe_map ((TopUps.safe_settle s).mono ?_)
  rintro (e | row) c hc
  · exact ⟨trivial, hop c ⟨_, hc⟩⟩
  · exact ⟨hc.1, hop c ⟨_, hc⟩⟩

/-- An operation that is neither a purchase nor its preview leaves nothing behind. -/
theorem tidy_script (h : op.isOffered = true) (hw : op.isWhole = false) (hnil : P [])
    (hop : ∀ c, op.Commits settings now c → P c.deeds) (s : Store) :
    Safe may (op.script settings now) (TidyWith P) (.fresh s) := by
  cases op with
  | requestTopUp account amount method reference => exact tidy_requestTopUp settings now hnil hop s
  | settle transaction approved => exact tidy_settle settings now hop s
  | purchase account item => cases hw
  | preview account item => cases hw
  | _ =>
      refine (reads_script settings now ?_).tidy hnil s
      exact h

theorem safe_purchase {account item : Int} (hnil : P [])
    (hop : ∀ c, Commits settings now (.purchase account item) c → P c.deeds) (s : Store) :
    Safe may (script settings now (.purchase account item)) (fun _ c => P c.deeds) (.fresh s) := by
  have hpurchase : Safe may (Checkout.purchase now account item) (fun _ c => P c.deeds)
      (.fresh s) :=
    safe_ownWork hnil fun s' => (Checkout.safe_buy s').mono fun r c hr => hop c ⟨r, hr⟩
  refine safe_bind (hpurchase.mono ?_)
  rintro (e | o) c hc <;> exact hc

theorem safe_preview (account item : Int) (hnil : P []) (s : Store) :
    Safe may (script settings now (.preview account item)) (fun _ c => P c.deeds) (.fresh s) := by
  obtain ⟨work, hwork, hreads⟩ := Checkout.preview_reads account item
  have hpreview : Safe may (Checkout.preview account item) (fun _ c => P c.deeds) (.fresh s) := by
    rw [hwork]
    exact safe_ownWork hnil fun s' => hreads.safe fun _ _ _ => hnil
  refine safe_bind (hpreview.mono ?_)
  rintro (e | o) c hc <;> exact hc

/-- Every operation that is offered is safe, and has committed nothing but what `Commits` says. -/
theorem safe_whole_with (hP : Lenient P) (h : op.isOffered = true)
    (hop : ∀ c, op.Commits settings now c → P c.deeds) (s : Store) :
    Safe may (op.whole settings now) (fun _ c => P c.deeds) (.fresh s) := by
  by_cases hw : op.isWhole = true
  · rw [whole, if_pos hw]
    cases op with
    | purchase account item => exact safe_purchase settings now hP.nil hop s
    | preview account item => exact safe_preview settings now account item hP.nil s
    | _ => cases hw
  · rw [whole, if_neg hw]
    have hwork : ∀ s', Safe may (op.script settings now) (TidyWith P) (.fresh s') :=
      tidy_script settings now h (by simpa using hw) hP.nil hop
    exact safe_committing hP hwork

theorem safe_whole (h : op.isOffered = true) (s : Store) :
    Safe may (op.whole settings now) (fun _ _ => True) (.fresh s) :=
  safe_whole_with (P := fun _ => True) settings now ⟨trivial, fun _ _ _ => trivial⟩ h
    (fun _ _ => trivial) s

end Operation

end Scrip
