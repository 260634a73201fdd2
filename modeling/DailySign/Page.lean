import DailySign.Concurrent
import DailySign.Controller

/-! # The page and the server

`components/signin/index.jsx` against the requests of `Concurrent`. -/
namespace DailySign

/-- What the page keeps: the balance `userState.user.quota` shows, the sign requests whose
`API.post` has not settled, and the balance each one's `doSign` captured. -/
structure Page where
  quota : Int
  waiting : List Nat
  base : Nat → Int

def Page.post (p : Page) (i : Nat) : Page :=
  { p with waiting := i :: p.waiting, base := Function.update p.base i p.quota }

/-- `doSign` once `API.post` resolves with `res`: on `success` the captured `userState.user.quota`
plus `data.quota`; with no `data`, reading `data.quota` throws into the `catch`. -/
def Page.settle (p : Page) (i : Nat) (res : Response Int) : Page :=
  { p with
    quota := match res.success, res.data with
      | true, some q => p.base i + q
      | _, _ => p.quota
    waiting := p.waiting.erase i }

def Page.drop (p : Page) (i : Nat) : Page := { p with waiting := p.waiting.erase i }

/-- The page, the server, how many requests the page has posted, and the requests whose
`API.post` threw: the page has forgotten them, the server may still run them. -/
structure World where
  sys : System
  page : Page
  sent : Nat
  lost : List Nat

inductive PageEv where
  | click
  | serve (i : Nat)
  | resolve (i : Nat)
  | reject (i : Nat)
  deriving DecidableEq

/-- One event, `none` when it cannot happen. Request `i` is the `i`-th the page posts and runs
with the `i`-th environment; it resolves only once it has returned. -/
def World.next (cfg : Config) (userId : Int) (envs : List SignEnv) (w : World) :
    PageEv → Option World
  | .click =>
    if w.sent < envs.length then some { w with page := w.page.post w.sent, sent := w.sent + 1 }
    else none
  | .serve i => if i < w.sent then some { w with sys := w.sys.step cfg userId envs i } else none
  | .resolve i =>
    if i ∈ w.page.waiting then
      match w.sys.pcs i with
      | .done r => some { w with page := w.page.settle i (signResponse r) }
      | _ => none
    else none
  | .reject i =>
    if i ∈ w.page.waiting then some { w with page := w.page.drop i, lost := i :: w.lost }
    else none

def World.run (cfg : Config) (userId : Int) (envs : List SignEnv) :
    World → List PageEv → Option World
  | w, [] => some w
  | w, ev :: evs => (w.next cfg userId envs ev).bind fun w' => World.run cfg userId envs w' evs

def World.init (s₀ : Store) (q₀ : Int) : World :=
  ⟨⟨s₀, fun _ => .start⟩, ⟨q₀, [], fun _ => q₀⟩, 0, []⟩

/-- Every click of the run comes while the page waits for no answer. -/
def World.OneAtATime (cfg : Config) (userId : Int) (envs : List SignEnv) :
    World → List PageEv → Prop
  | _, [] => True
  | w, ev :: evs => (ev = .click → w.page.waiting = []) ∧
    (w.next cfg userId envs ev).elim True fun w' => World.OneAtATime cfg userId envs w' evs

instance World.OneAtATime.decidable (cfg : Config) (userId : Int) (envs : List SignEnv) :
    ∀ w evs, Decidable (World.OneAtATime cfg userId envs w evs)
  | _, [] => isTrue trivial
  | w, ev :: evs =>
    have : Decidable ((w.next cfg userId envs ev).elim True
        fun w' => World.OneAtATime cfg userId envs w' evs) :=
      match w.next cfg userId envs ev with
      | none => isTrue trivial
      | some w' => World.OneAtATime.decidable cfg userId envs w' evs
    inferInstanceAs (Decidable (_ ∧ _))

def World.unapplied (w : World) : List Nat := w.page.waiting ++ w.lost

def World.owed (w : World) : Nat := w.unapplied.countP fun i => (w.sys.pcs i).credited

/-- What a request's progress says of the grant: past the first check `QuotaForSign` is
positive, and a returned `Success=true` carries it. -/
def Pc.Paid (cfg : Config) : Pc → Prop
  | .start => True
  | .done (.error _) => True
  | .done (.ok r) => r.success = true → r.quota = cfg.quotaForSign ∧ 0 < cfg.quotaForSign
  | _ => 0 < cfg.quotaForSign

theorem checkBeforeCount_enabled {cfg : Config} {s : Store} {userId : Int} {e : CheckEnv}
    (h : checkBeforeCount cfg s userId e = none) : 0 < cfg.quotaForSign := by
  unfold checkBeforeCount at h
  split_ifs at h with hq
  exact lt_of_not_le hq

theorem signStep_paid (cfg : Config) (userId : Int) (e : SignEnv) (s : Store) {pc : Pc}
    (h : pc.Paid cfg) : (signStep cfg userId e s pc).1.Paid cfg := by
  cases pc with
  | start =>
    simp only [signStep]
    split
    · exact fun h => (nomatch h)
    · exact checkBeforeCount_enabled ‹_›
  | counting =>
    simp only [signStep]
    split
    · exact h
    · exact fun h => (nomatch h)
  | naming => exact h
  | increasing username =>
    simp only [signStep]
    split
    · trivial
    · exact h
  | logging username => exact fun _ => ⟨rfl, h⟩
  | done r => exact h

theorem Pc.Paid.enabled {cfg : Config} {pc : Pc} (h : pc.Paid cfg) (hc : pc.credited = true) :
    0 < cfg.quotaForSign := by
  cases pc with
  | logging => exact h
  | done r =>
    rcases r with _ | r
    · exact nomatch hc
    · exact (h hc).2
  | _ => exact nomatch hc

theorem settle_signResponse {cfg : Config} (p : Page) (i : Nat) {r : Except String SignResult}
    (hp : (Pc.done r).Paid cfg) :
    (p.settle i (signResponse r)).quota =
      if granted r then p.base i + cfg.quotaForSign else p.quota := by
  rcases r with err | ⟨_ | _, msg, q⟩
  · simp [Page.settle, signResponse, apiError, granted]
  · simp [Page.settle, signResponse, granted]
  · simp only [Page.settle, signResponse, granted, if_true]
    exact congrArg _ (hp rfl).1

theorem map_quota_shift {a b : Option User} {f g : User → Int} (d : Int)
    (h : a.map (·.quota) = b.map f) (hg : ∀ u, g u = f u + d) :
    a.map (·.quota + d) = b.map g := by
  cases a <;> cases b <;> simp_all

theorem System.step_cases (cfg : Config) (userId : Int) (envs : List SignEnv) (sys : System)
    (i : Nat) : sys.step cfg userId envs i = sys ∨ ∃ e, sys.step cfg userId envs i =
      ⟨(signStep cfg userId e sys.store (sys.pcs i)).2,
        Function.update sys.pcs i (signStep cfg userId e sys.store (sys.pcs i)).1⟩ := by
  unfold System.step
  rcases envs[i]? with _ | e
  · exact .inl rfl
  · exact .inr ⟨e, rfl⟩

theorem World.next_cases {cfg : Config} {userId : Int} {envs : List SignEnv} {w w' : World}
    {ev : PageEv} (hn : w.next cfg userId envs ev = some w') :
    (ev = .click ∧ w' = { w with page := w.page.post w.sent, sent := w.sent + 1 }) ∨
    (∃ i, ev = .serve i ∧ i < w.sent ∧ w' = { w with sys := w.sys.step cfg userId envs i }) ∨
    (∃ i r, ev = .resolve i ∧ i ∈ w.page.waiting ∧ w.sys.pcs i = .done r ∧
      w' = { w with page := w.page.settle i (signResponse r) }) ∨
    (∃ i, ev = .reject i ∧ i ∈ w.page.waiting ∧
      w' = { w with page := w.page.drop i, lost := i :: w.lost }) := by
  cases ev with
  | click =>
    simp only [World.next] at hn
    split_ifs at hn
    exact .inl ⟨rfl, (Option.some.inj hn).symm⟩
  | serve i =>
    simp only [World.next] at hn
    split_ifs at hn with hi
    exact .inr (.inl ⟨i, rfl, hi, (Option.some.inj hn).symm⟩)
  | resolve i =>
    simp only [World.next] at hn
    split_ifs at hn with hi
    split at hn
    · exact .inr (.inr (.inl ⟨i, _, rfl, hi, ‹_›, (Option.some.inj hn).symm⟩))
    · cases hn
  | reject i =>
    simp only [World.next] at hn
    split_ifs at hn with hi
    exact .inr (.inr (.inr ⟨i, rfl, hi, (Option.some.inj hn).symm⟩))

/-! ## The page never shows more than the server granted -/

/-- The page shows no more than the server granted, and no request in flight captured a
balance that its own grant would carry past the grants. -/
structure Tracks (cfg : Config) (userId : Int) (s₀ : Store) (q₀ : Int) (w : World) : Prop where
  nodup : w.unapplied.Nodup
  posted : ∀ i ∈ w.unapplied, i < w.sent
  fresh : ∀ i, w.sent ≤ i → w.sys.pcs i = .start
  answered : ∀ i < w.sent, i ∉ w.unapplied → ∃ r, w.sys.pcs i = .done r
  paid : ∀ i, (w.sys.pcs i).Paid cfg
  balance : (w.sys.store.users userId).map (·.quota) =
    (s₀.users userId).map (·.quota + cfg.quotaForSign * creditedCount w.sys w.sent)
  below : w.page.quota - q₀ ≤ cfg.quotaForSign * creditedCount w.sys w.sent
  pending : ∀ i ∈ w.page.waiting, w.page.base i - q₀ +
    (if (w.sys.pcs i).credited then cfg.quotaForSign else 0) ≤
      cfg.quotaForSign * creditedCount w.sys w.sent

/-- One request at a time: the page waits for at most one answer, captured at the balance it
shows, and it shows the grants but those whose answer it has not applied. -/
structure Exact (cfg : Config) (q₀ : Int) (w : World) : Prop where
  single : ∀ i ∈ w.page.waiting, w.page.waiting = [i] ∧ w.page.base i = w.page.quota
  shown : w.page.quota - q₀ + cfg.quotaForSign * w.owed =
    cfg.quotaForSign * creditedCount w.sys w.sent

theorem World.unapplied_settle {w : World} {i : Nat} (hi : i ∈ w.page.waiting)
    (res : Response Int) :
    w.unapplied.Perm (i :: World.unapplied { w with page := w.page.settle i res }) :=
  (List.perm_cons_erase hi).append_right w.lost

theorem World.unapplied_drop {w : World} {i : Nat} (hi : i ∈ w.page.waiting) :
    (World.unapplied { w with page := w.page.drop i, lost := i :: w.lost }).Perm w.unapplied :=
  List.perm_middle.trans ((List.perm_cons_erase hi).append_right w.lost).symm

section Tracks

variable {cfg : Config} {userId : Int} {s₀ : Store} {q₀ : Int}

theorem tracks_init : Tracks cfg userId s₀ q₀ (World.init s₀ q₀) where
  nodup := List.nodup_nil
  posted _ h := nomatch h
  fresh _ _ := rfl
  answered _ h := absurd h (Nat.not_lt_zero _)
  paid _ := trivial
  balance := by simp [World.init, creditedCount]
  below := by simp [World.init, creditedCount]
  pending _ h := nomatch h

theorem exact_init : Exact cfg q₀ (World.init s₀ q₀) where
  single _ h := nomatch h
  shown := by simp [World.init, World.owed, creditedCount, World.unapplied]

theorem credited_owed_post {w : World} (hs : w.sys.pcs w.sent = .start) :
    creditedCount w.sys (w.sent + 1) = creditedCount w.sys w.sent ∧
    World.owed { w with page := w.page.post w.sent, sent := w.sent + 1 } = w.owed := by
  simp [creditedCount, World.owed, World.unapplied, Page.post, List.range_succ, hs, Pc.credited]

theorem Tracks.click {w : World} (h : Tracks cfg userId s₀ q₀ w) :
    Tracks cfg userId s₀ q₀ { w with page := w.page.post w.sent, sent := w.sent + 1 } where
  nodup := List.nodup_cons.mpr ⟨fun hm => Nat.lt_irrefl _ (h.posted _ hm), h.nodup⟩
  posted i hi := by
    rcases List.mem_cons.mp hi with rfl | hi
    · exact Nat.lt_succ_self _
    · exact Nat.lt_succ_of_lt (h.posted i hi)
  fresh i hi := h.fresh i (Nat.le_of_succ_le hi)
  answered i hi hn := h.answered i
    (Nat.lt_of_le_of_ne (Nat.le_of_lt_succ hi) fun he => hn (he ▸ List.mem_cons_self _ _))
    fun hm => hn (List.mem_cons_of_mem _ hm)
  paid := h.paid
  balance := (credited_owed_post (h.fresh _ le_rfl)).1 ▸ h.balance
  below := (credited_owed_post (h.fresh _ le_rfl)).1 ▸ h.below
  pending i hi := by
    have hs := h.fresh _ le_rfl
    rw [(credited_owed_post hs).1]
    rcases List.mem_cons.mp hi with rfl | hi
    · simpa [Page.post, hs, Pc.credited] using h.below
    · have hne : i ≠ w.sent := Nat.ne_of_lt (h.posted i (List.mem_append_left _ hi))
      simpa [Page.post, Function.update_noteq hne] using h.pending i hi

theorem Exact.click {w : World} (h : Tracks cfg userId s₀ q₀ w) (he : Exact cfg q₀ w)
    (hw : w.page.waiting = []) :
    Exact cfg q₀ { w with page := w.page.post w.sent, sent := w.sent + 1 } where
  single i hi := by
    simp only [Page.post, hw, List.mem_singleton] at hi ⊢
    subst hi
    exact ⟨rfl, Function.update_same _ _ _⟩
  shown := by
    obtain ⟨hc, ho⟩ := credited_owed_post (h.fresh _ le_rfl)
    rw [hc, ho]
    exact he.shown

theorem Tracks.step_answered {w : World} (h : Tracks cfg userId s₀ q₀ w) (envs : List SignEnv)
    {i : Nat} (hi : i < w.sent) (hu : i ∉ w.unapplied) :
    w.sys.step cfg userId envs i = w.sys := by
  obtain ⟨r, hr⟩ := h.answered i hi hu
  rcases System.step_cases cfg userId envs w.sys i with hs | ⟨e, hs⟩
  · exact hs
  · rw [hs, hr]
    simp only [signStep, ← hr, Function.update_eq_self]

theorem Tracks.serve_counts {w : World} (h : Tracks cfg userId s₀ q₀ w) (envs : List SignEnv)
    {i : Nat} (hi : i < w.sent) (hu : i ∈ w.unapplied) :
    (∀ j ≠ i, (w.sys.step cfg userId envs i).pcs j = w.sys.pcs j) ∧
    ((w.sys.step cfg userId envs i).pcs i).Paid cfg ∧
    ((0 < cfg.quotaForSign ∧
      ((w.sys.step cfg userId envs i).store.users userId).map (·.quota) =
        (w.sys.store.users userId).map (·.quota + cfg.quotaForSign) ∧
      creditedCount (w.sys.step cfg userId envs i) w.sent = creditedCount w.sys w.sent + 1 ∧
      World.owed { w with sys := w.sys.step cfg userId envs i } = w.owed + 1) ∨
    ((∀ j, ((w.sys.step cfg userId envs i).pcs j).credited = (w.sys.pcs j).credited) ∧
      ((w.sys.step cfg userId envs i).store.users userId).map (·.quota) =
        (w.sys.store.users userId).map (·.quota) ∧
      creditedCount (w.sys.step cfg userId envs i) w.sent = creditedCount w.sys w.sent ∧
      World.owed { w with sys := w.sys.step cfg userId envs i } = w.owed)) := by
  rcases System.step_cases cfg userId envs w.sys i with hs | ⟨e, hs⟩
  · rw [hs]
    exact ⟨fun _ _ => rfl, h.paid i, .inr ⟨fun _ => rfl, rfl, rfl, rfl⟩⟩
  rw [hs]
  have hp := signStep_paid cfg userId e w.sys.store (h.paid i)
  have hc := countP_update_of_mem Pc.credited w.sys.pcs
    (signStep cfg userId e w.sys.store (w.sys.pcs i)).1 (List.nodup_range w.sent)
    (List.mem_range.mpr hi)
  have ho := countP_update_of_mem Pc.credited w.sys.pcs
    (signStep cfg userId e w.sys.store (w.sys.pcs i)).1 h.nodup hu
  dsimp only
  refine ⟨fun j hj => Function.update_noteq hj _ _, by rw [Function.update_same]; exact hp, ?_⟩
  rcases signStep_credit cfg userId e w.sys.store (w.sys.pcs i) with ⟨hb, h₁, h₂⟩ | ⟨hb, h₁⟩
  · simp only [h₁, h₂, Bool.false_eq_true, if_false, if_true, Nat.add_zero] at hc ho
    exact .inl ⟨hp.enabled h₂, hb, hc, ho⟩
  · rw [h₁] at hc ho
    refine .inr ⟨fun j => ?_, hb, Nat.add_right_cancel hc, Nat.add_right_cancel ho⟩
    rw [Function.update_apply]
    split_ifs with hj
    · exact hj ▸ h₁
    · rfl

theorem Tracks.serve {w : World} (h : Tracks cfg userId s₀ q₀ w) (envs : List SignEnv)
    {i : Nat} (hi : i < w.sent) :
    Tracks cfg userId s₀ q₀ { w with sys := w.sys.step cfg userId envs i } := by
  by_cases hu : i ∈ w.unapplied
  case neg => rw [h.step_answered envs hi hu]; exact h
  obtain ⟨hpcs, hpaid, hcase⟩ := h.serve_counts envs hi hu
  refine ⟨h.nodup, h.posted, fun j hj => ?_, fun j hj hn => ?_, fun j => ?_, ?_, ?_, ?_⟩
  · rw [hpcs j (Nat.ne_of_gt (Nat.lt_of_lt_of_le hi hj))]; exact h.fresh j hj
  · rw [hpcs j (ne_of_mem_of_not_mem hu hn).symm]; exact h.answered j hj hn
  · by_cases hj : j = i
    · exact hj ▸ hpaid
    · rw [hpcs j hj]; exact h.paid j
  all_goals rcases hcase with ⟨hq, hb, hc, -⟩ | ⟨hcr, hb, hc, -⟩ <;> dsimp only <;> rw [hc]
  · rw [Nat.cast_succ, mul_add_one]
    exact hb.trans (map_quota_shift _ h.balance fun u => (add_assoc _ _ _).symm)
  · exact hb.trans h.balance
  · rw [Nat.cast_succ, mul_add_one]
    have := h.below; omega
  · exact h.below
  · intro j hj
    have hj' := h.pending j hj
    rw [Nat.cast_succ, mul_add_one]
    split_ifs at hj' ⊢ <;> omega
  · intro j hj
    rw [hcr j]
    exact h.pending j hj

theorem Exact.serve {w : World} (h : Tracks cfg userId s₀ q₀ w) (he : Exact cfg q₀ w)
    (envs : List SignEnv) {i : Nat} (hi : i < w.sent) :
    Exact cfg q₀ { w with sys := w.sys.step cfg userId envs i } := by
  by_cases hu : i ∈ w.unapplied
  case neg => rw [h.step_answered envs hi hu]; exact he
  refine ⟨he.single, ?_⟩
  rcases (h.serve_counts envs hi hu).2.2 with ⟨-, -, hc, ho⟩ | ⟨-, -, hc, ho⟩ <;>
    dsimp only <;> rw [hc, ho]
  · rw [Nat.cast_succ, Nat.cast_succ, mul_add_one, mul_add_one]
    have := he.shown; omega
  · exact he.shown

theorem Tracks.resolve {w : World} (h : Tracks cfg userId s₀ q₀ w) {i : Nat}
    (hi : i ∈ w.page.waiting) {r : Except String SignResult} (hr : w.sys.pcs i = .done r) :
    Tracks cfg userId s₀ q₀ { w with page := w.page.settle i (signResponse r) } := by
  have hp := World.unapplied_settle hi (signResponse r)
  refine ⟨(hp.nodup_iff.mp h.nodup).of_cons, fun j hj => h.posted j (hp.symm.subset
    (List.mem_cons_of_mem _ hj)), h.fresh, fun j hj hn => ?_, h.paid, h.balance, ?_,
    fun j hj => h.pending j (List.mem_of_mem_erase hj)⟩
  · by_cases hji : j = i
    · exact ⟨r, hji ▸ hr⟩
    · refine h.answered j hj fun hm => hn ?_
      rcases List.mem_cons.mp (hp.subset hm) with rfl | hm
      · exact absurd rfl hji
      · exact hm
  · have hi' := h.pending i hi
    rw [hr, show (Pc.done r).credited = granted r from rfl] at hi'
    show (w.page.settle i (signResponse r)).quota - q₀ ≤ _
    rw [settle_signResponse _ _ (hr ▸ h.paid i)]
    split_ifs at hi' ⊢
    · linarith
    · exact h.below

theorem Exact.resolve {w : World} (h : Tracks cfg userId s₀ q₀ w) (he : Exact cfg q₀ w)
    {i : Nat} (hi : i ∈ w.page.waiting) {r : Except String SignResult}
    (hr : w.sys.pcs i = .done r) :
    Exact cfg q₀ { w with page := w.page.settle i (signResponse r) } := by
  obtain ⟨hw, hb⟩ := he.single i hi
  have hwait : (w.page.settle i (signResponse r)).waiting = [] := by
    simp [Page.settle, hw]
  have ho : w.owed = World.owed { w with page := w.page.settle i (signResponse r) } +
      if granted r then 1 else 0 := by
    rw [World.owed, (World.unapplied_settle hi (signResponse r)).countP_eq, List.countP_cons, hr]
    rfl
  refine ⟨fun j hj => by rw [hwait] at hj; exact absurd hj (List.not_mem_nil j), ?_⟩
  have hs := he.shown
  show (w.page.settle i (signResponse r)).quota - q₀ + _ = _
  rw [ho] at hs
  rw [settle_signResponse _ _ (hr ▸ h.paid i), hb]
  split_ifs at hs ⊢ <;> push_cast at hs <;> linarith

theorem Tracks.reject {w : World} (h : Tracks cfg userId s₀ q₀ w) {i : Nat}
    (hi : i ∈ w.page.waiting) :
    Tracks cfg userId s₀ q₀ { w with page := w.page.drop i, lost := i :: w.lost } :=
  have hp := World.unapplied_drop hi
  ⟨hp.nodup_iff.mpr h.nodup, fun j hj => h.posted j (hp.subset hj), h.fresh,
    fun j hj hn => h.answered j hj fun hm => hn (hp.symm.subset hm), h.paid, h.balance, h.below,
    fun j hj => h.pending j (List.mem_of_mem_erase hj)⟩

theorem Exact.reject {w : World} (he : Exact cfg q₀ w) {i : Nat} (hi : i ∈ w.page.waiting) :
    Exact cfg q₀ { w with page := w.page.drop i, lost := i :: w.lost } := by
  obtain ⟨hw, -⟩ := he.single i hi
  refine ⟨fun j hj => ?_, ?_⟩
  · simp [Page.drop, hw] at hj
  · rw [World.owed, (World.unapplied_drop hi).countP_eq]
    exact he.shown

theorem Tracks.next {w w' : World} (h : Tracks cfg userId s₀ q₀ w) {envs : List SignEnv}
    {ev : PageEv} (hn : w.next cfg userId envs ev = some w') : Tracks cfg userId s₀ q₀ w' := by
  rcases World.next_cases hn with ⟨-, rfl⟩ | ⟨i, -, hi, rfl⟩ | ⟨i, r, -, hi, hr, rfl⟩ |
    ⟨i, -, hi, rfl⟩
  · exact h.click
  · exact h.serve envs hi
  · exact h.resolve hi hr
  · exact h.reject hi

theorem Exact.next {w w' : World} (h : Tracks cfg userId s₀ q₀ w) (he : Exact cfg q₀ w)
    {envs : List SignEnv} {ev : PageEv} (hq : ev = .click → w.page.waiting = [])
    (hn : w.next cfg userId envs ev = some w') : Exact cfg q₀ w' := by
  rcases World.next_cases hn with ⟨rfl, rfl⟩ | ⟨i, -, hi, rfl⟩ | ⟨i, r, -, hi, hr, rfl⟩ |
    ⟨i, -, hi, rfl⟩
  · exact he.click h (hq rfl)
  · exact he.serve h envs hi
  · exact he.resolve h hi hr
  · exact he.reject hi

theorem tracks_run (envs : List SignEnv) :
    ∀ (evs : List PageEv) {w w' : World}, Tracks cfg userId s₀ q₀ w →
      World.run cfg userId envs w evs = some w' → Tracks cfg userId s₀ q₀ w'
  | [], _, _, h, hr => Option.some.inj hr ▸ h
  | _ :: evs, _, _, h, hr => by
    obtain ⟨w₁, h₁, h₂⟩ := Option.bind_eq_some.mp hr
    exact tracks_run envs evs (h.next h₁) h₂

theorem exact_run (envs : List SignEnv) :
    ∀ (evs : List PageEv) {w w' : World}, Tracks cfg userId s₀ q₀ w → Exact cfg q₀ w →
      World.OneAtATime cfg userId envs w evs → World.run cfg userId envs w evs = some w' →
      Exact cfg q₀ w'
  | [], _, _, _, he, _, hr => Option.some.inj hr ▸ he
  | _ :: evs, _, _, h, he, ⟨hq, hone⟩, hr => by
    obtain ⟨w₁, h₁, h₂⟩ := Option.bind_eq_some.mp hr
    rw [h₁] at hone
    exact exact_run envs evs (h.next h₁) (he.next h hq h₁) hone h₂

end Tracks

/-- Over every run the page never shows more than the server granted; one click at a time, it
shows the grants but those whose answer it has not applied. -/
theorem page_tracks_balance (cfg : Config) (userId : Int) (envs : List SignEnv) (s₀ : Store)
    (q₀ : Int) (evs : List PageEv) (w : World)
    (hrun : (World.init s₀ q₀).run cfg userId envs evs = some w) :
    (∀ u₀ u, s₀.users userId = some u₀ → w.sys.store.users userId = some u →
      w.page.quota - q₀ ≤ u.quota - u₀.quota) ∧
    (World.OneAtATime cfg userId envs (World.init s₀ q₀) evs →
      (w.sys.store.users userId).map (·.quota) = (s₀.users userId).map
        (·.quota + (w.page.quota - q₀) + cfg.quotaForSign * w.owed) ∧
      (w.unapplied = [] → (w.sys.store.users userId).map (·.quota) =
        (s₀.users userId).map (·.quota + (w.page.quota - q₀)))) := by
  have h := tracks_run envs evs tracks_init hrun
  refine ⟨fun u₀ u h₀ hu => ?_, fun hone => ?_⟩
  · have hb := h.balance
    rw [h₀, hu, Option.map_some', Option.map_some', Option.some.injEq] at hb
    have := h.below; omega
  have hb : (w.sys.store.users userId).map (·.quota) = (s₀.users userId).map
      (·.quota + (w.page.quota - q₀) + cfg.quotaForSign * w.owed) :=
    h.balance.trans (congrArg (Option.map · _) (funext fun u => by
      linarith [(exact_run envs evs tracks_init exact_init hone hrun).shown]))
  refine ⟨by simpa using hb, fun h0 => by rw [hb, World.owed, h0]; simp⟩

def lostEvents : List PageEv :=
  [.click, .serve 0, .serve 0, .serve 0, .serve 0, .serve 0, .reject 0, .click, .serve 1,
    .serve 1, .resolve 1]

def lostWorld : World :=
  ((World.init (soloStore 43200) 0).run noonConfig 1 lockedEnvs lostEvents).getD
    (World.init (soloStore 43200) 0)

theorem page_tracks_balance_lost :
    (World.init (soloStore 43200) 0).run noonConfig 1 lockedEnvs lostEvents = some lostWorld ∧
    World.OneAtATime noonConfig 1 lockedEnvs (World.init (soloStore 43200) 0) lostEvents ∧
    ((∀ u₀ u, (soloStore 43200).users 1 = some u₀ → lostWorld.sys.store.users 1 = some u →
      lostWorld.page.quota - 0 ≤ u.quota - u₀.quota) ∧
    (World.OneAtATime noonConfig 1 lockedEnvs (World.init (soloStore 43200) 0) lostEvents →
      (lostWorld.sys.store.users 1).map (·.quota) = ((soloStore 43200).users 1).map
        (·.quota + (lostWorld.page.quota - 0) + noonConfig.quotaForSign * lostWorld.owed) ∧
      (lostWorld.unapplied = [] → (lostWorld.sys.store.users 1).map (·.quota) =
        ((soloStore 43200).users 1).map (·.quota + (lostWorld.page.quota - 0))))) :=
  ⟨rfl, by decide,
    page_tracks_balance noonConfig 1 lockedEnvs (soloStore 43200) 0 lostEvents lostWorld rfl⟩

/-- `getSignInfo` once `API.get` settles, `.error` when it throws: on `success` the page keeps
`data`; otherwise, and in the `catch`, it sets `signInfo` to `null`. -/
def keptInfo : Except String (Response SignInfo) → Option SignInfo
  | .error _ => none
  | .ok res => if res.success then res.data else none

end DailySign
