import Krometrail.Instances.Roots

/-!
# The exclusion of instance roots

An ownership that `acquire_new` has returned keeps its root to itself, when the file that it locked was the lock of the
root and no earlier one was open: then every other actor that opens the lock of the root opens the file that is locked.
-/

namespace Krometrail.Instances

open Keyed
open Runs (Run)

/-! ### The invariant -/

namespace Phase

/-- The root and the file of an actor that has locked a root of its own. -/
def secures : Phase → Option (Uuid × Nat)
  | .secured root file | .owner root file _ _ => some (root, file)
  | _ => none

def inCensus : Phase → Option Census
  | .counting census | .trying _ (.census census) | .tried _ _ (.census census) | .held _ _ (.census census)
  | .counted _ _ census => some census
  | _ => none

variable {phase : Phase}

theorem holds_of_secures {root : Uuid} {file : Nat} (h : phase.secures = some (root, file)) : phase.holds = some file := by
  cases phase <;> simp_all [secures, holds]

theorem handle_of_claims {root : Uuid} (h : phase.claims = some root) :
    ∃ file, phase.handle = some (root, file) ∧ phase.holds = some file ∧ phase.secures = none := by
  cases phase <;> simp_all [claims, handle, holds, secures]

theorem secures_of_ownership {o : Nat × Uuid} (h : phase.ownership = some o) : ∃ file, phase.secures = some (o.2, file) := by
  cases phase <;> simp_all [ownership, secures]
  simp [← h]

end Phase

/-- What a census has found covers the ownerships that were held when it started and still are. -/
structure Census.Covers (c : Census) (s : State) : Prop where
  numbered : ∀ o ∈ c.since, o.1 < s.serial
  found : ∀ o ∈ c.since, o ∈ s.ownerships → (o.2 = c.owned ∨ o.2 ∈ c.names) ∧ o.2 ∉ c.dead

structure State.Guarded (s : State) : Prop where
  names : UniqueKeys Root.name s.roots
  exclusive : ∀ (a b : Nat) (p q : Phase) (file : Nat), s.phases[a]? = some p → s.phases[b]? = some q →
    p.holds = some file → q.holds = some file → a = b
  secured : ∀ (a : Nat) (p : Phase) (root : Uuid) (file : Nat), s.phases[a]? = some p → p.secures = some (root, file) →
    ∃ r, s.find root = some r ∧ r.lock = some file
  handles : ∀ (a : Nat) (p : Phase) (root : Uuid) (file : Nat), s.phases[a]? = some p → p.secures = some (root, file) →
    ∀ (b : Nat) (q : Phase), b ≠ a → s.phases[b]? = some q → ∀ found, q.handle = some (root, found) → found = file
  identity : ∀ (a : Nat) root file identity serial, s.phases[a]? = some (Phase.owner root file identity serial) →
    identity = s.directoryIdentity root
  numbered : ∀ o ∈ s.ownerships, o.1 < s.serial
  covers : ∀ (a : Nat) (p : Phase) (c : Census), s.phases[a]? = some p → p.inCensus = some c → c.Covers s
  robbed : s.robbed = []
  reports : ∀ report ∈ s.reports, ∀ o ∈ report.since, o ∈ report.until_ → o.2 ∈ report.live

variable {s s' : State} {a b inode file : Nat} {p q : Phase} {root : Uuid} {c : Census}

theorem mem_ownerships {o : Nat × Uuid} :
    o ∈ s.ownerships ↔ ∃ (a : Nat) (p : Phase), s.phases[a]? = some p ∧ p.ownership = some o := by
  rw [State.ownerships, List.mem_filterMap]
  constructor
  · rintro ⟨p, hp, ho⟩
    obtain ⟨a, ha⟩ := List.mem_iff_getElem?.1 hp
    exact ⟨a, p, ha, ho⟩
  · rintro ⟨a, p, ha, ho⟩
    exact ⟨p, List.mem_of_getElem? ha, ho⟩

theorem not_holds_of_isLocked (h : s.isLocked file = false) (hb : s.phases[b]? = some q) : q.holds ≠ some file := by
  intro hq
  have : s.isLocked file = true := List.any_eq_true.2 ⟨q, List.mem_of_getElem? hb, by simp [hq]⟩
  simp [this] at h

theorem getElem?_setPhase (s : State) (a b : Nat) (q : Phase) :
    (s.setPhase a q).phases[b]? = if a = b then (s.phases[a]?.map fun _ => q) else s.phases[b]? := by
  rw [State.setPhase, List.getElem?_set]
  by_cases hab : a = b
  · subst hab
    by_cases hlt : a < s.phases.length
    · simp [hlt]
    · simp [hlt]
  · simp [hab]


namespace State.Guarded

variable (hs : s.Guarded)

include hs

theorem not_secured (ha : s.phases[a]? = some p) (hhandle : p.handle = some (root, file)) (hholds : p.holds = some file)
    (hsecures : p.secures = none) (hb : s.phases[b]? = some q) {file' : Nat} : q.secures ≠ some (root, file') := by
  intro hq
  have hab : a ≠ b := by
    rintro rfl
    rw [Option.some.inj (ha.symm.trans hb), hq] at hsecures
    cases hsecures
  have hfile := hs.handles b q root file' hb hq a p hab ha file hhandle
  subst hfile
  exact hab (hs.exclusive a b p q file ha hb hholds (Phase.holds_of_secures hq))

theorem ownerships_ne (ha : s.phases[a]? = some p) (hhandle : p.handle = some (root, file)) (hholds : p.holds = some file)
    (hsecures : p.secures = none) : ∀ o ∈ s.ownerships, o.2 ≠ root := by
  intro o ho heq
  obtain ⟨b, q, hb, hq⟩ := mem_ownerships.1 ho
  obtain ⟨file', hfile⟩ := Phase.secures_of_ownership hq
  exact hs.not_secured ha hhandle hholds hsecures hb (heq ▸ hfile)

end State.Guarded

theorem directoryIdentity_of_find {r : Root} (h : s.find root = some r) : s.directoryIdentity root = some r.inode := by
  simp [State.directoryIdentity, h]

theorem name_of_find {r : Root} (h : s.find root = some r) : r.name = root := by
  simpa using List.find?_some h

variable {f : Root → Root}

theorem find_updateRoot (hname : ∀ r, (f r).name = r.name) (other : Uuid) :
    (s.updateRoot root f).find other = (s.find other).map fun r => if r.name = root then f r else r := by
  simp only [State.updateRoot, State.find, List.find?_map]
  congr 2
  funext r
  by_cases h : r.name = root <;> simp [h, hname]

theorem State.Guarded.withRoots (hs : s.Guarded) {roots : List Root} (hnames : UniqueKeys Root.name roots)
    (hkept : ∀ (a : Nat) (p : Phase) (root : Uuid) (file : Nat) (r : Root), s.phases[a]? = some p →
      p.secures = some (root, file) → s.find root = some r →
      ∃ r', ({ s with roots } : State).find root = some r' ∧ r'.lock = r.lock ∧ r'.inode = r.inode) :
    State.Guarded { s with roots } := by
  refine ⟨hnames, hs.exclusive, fun a p root file ha hp => ?_, hs.handles, fun a root file identity serial ha => ?_,
    hs.numbered, fun a p c ha hc => ⟨(hs.covers a p c ha hc).numbered, (hs.covers a p c ha hc).found⟩, hs.robbed, hs.reports⟩
  · obtain ⟨r, hr, hlock⟩ := hs.secured a p root file ha hp
    obtain ⟨r', hr', hlock', -⟩ := hkept a p root file r ha hp hr
    exact ⟨r', hr', hlock'.trans hlock⟩
  · obtain ⟨r, hr, -⟩ := hs.secured a _ root file ha rfl
    obtain ⟨r', hr', -, hinode⟩ := hkept a _ root file r ha rfl hr
    rw [hs.identity a root file identity serial ha, directoryIdentity_of_find hr, directoryIdentity_of_find hr', hinode]

theorem uniqueKeys_updateRoot (hname : ∀ r, (f r).name = r.name) (h : UniqueKeys Root.name s.roots) :
    UniqueKeys Root.name (s.updateRoot root f).roots := by
  have hnames : (s.updateRoot root f).roots.map Root.name = s.roots.map Root.name := by
    rw [State.updateRoot, List.map_map]
    refine List.map_congr_left fun r _ => ?_
    by_cases hr : r.name = root <;> simp [hr, hname]
  unfold UniqueKeys
  rw [hnames]
  exact h

theorem State.Guarded.updateRoot (hs : s.Guarded) (hname : ∀ r, (f r).name = r.name)
    (hkept : ∀ (a : Nat) (p : Phase) (file : Nat) (r : Root), s.phases[a]? = some p → p.secures = some (root, file) →
      s.find root = some r → (f r).lock = r.lock ∧ (f r).inode = r.inode)
    : (s.updateRoot root f).Guarded := by
  refine hs.withRoots (uniqueKeys_updateRoot hname hs.names) fun a p other file r ha hp hr => ?_
  refine ⟨if r.name = root then f r else r, (find_updateRoot hname other).trans (by rw [hr]; rfl), ?_⟩
  by_cases hroot : r.name = root
  · rw [if_pos hroot]
    obtain rfl : other = root := (name_of_find hr).symm.trans hroot
    exact hkept a p file r ha hp hr
  · rw [if_neg hroot]
    exact ⟨rfl, rfl⟩

theorem State.Guarded.openLockFile (hs : s.Guarded) (h : s.openLockFile root inode = some (file, s')) :
    s'.Guarded ∧ s'.phases = s.phases ∧ ∃ r, s'.find root = some r ∧ r.lock = some file := by
  obtain ⟨r, hr, h⟩ := Option.bind_eq_some_iff.1 h
  split at h
  · rename_i found hlock
    cases h
    exact ⟨hs, rfl, r, hr, hlock⟩
  · rename_i hlock
    obtain ⟨-, h⟩ := Option.ite_none_right_eq_some.1 h
    cases h
    refine ⟨hs.updateRoot (fun _ => rfl) fun a p file r' ha hp hr' => ?_, rfl, { r with lock := some inode }, ?_, rfl⟩
    · obtain ⟨r'', hr'', hlock''⟩ := hs.secured a p root file ha hp
      simp_all
    · rw [find_updateRoot (f := fun r => { r with lock := some inode }) (fun _ => rfl), hr]
      simp [name_of_find hr]

theorem State.Guarded.removal (hs : s.Guarded) (ha : s.phases[a]? = some p) (hhandle : p.handle = some (root, file))
    (hholds : p.holds = some file) (hsecures : p.secures = none) (hname : ∀ r, (f r).name = r.name) :
    (s.removal root f).Guarded := by
  have hnone : s.ownerships.filter (·.2 = root) = [] := by
    rw [List.filter_eq_nil_iff]
    intro o ho
    simpa using hs.ownerships_ne ha hhandle hholds hsecures o ho
  have hupdated : (s.updateRoot root f).Guarded :=
    hs.updateRoot hname fun b q file' r hb hq _ => absurd hq (hs.not_secured ha hhandle hholds hsecures hb)
  unfold State.removal
  rw [hnone]
  exact ⟨hupdated.names, hupdated.exclusive, hupdated.secured, hupdated.handles, hupdated.identity, hupdated.numbered,
    fun b q c hb hc => ⟨(hupdated.covers b q c hb hc).numbered, (hupdated.covers b q c hb hc).found⟩, hupdated.robbed,
    hupdated.reports⟩

theorem Census.Covers.mono (h : c.Covers s) (hserial : s.serial ≤ s'.serial)
    (hownerships : ∀ o ∈ s'.ownerships, o ∈ s.ownerships ∨ s.serial ≤ o.1) : c.Covers s' where
  numbered o ho := (h.numbered o ho).trans_le hserial
  found o ho hcurrent := by
    rcases hownerships o hcurrent with hold | hnew
    · exact h.found o ho hold
    · exact absurd (h.numbered o ho) (Nat.not_lt.2 hnew)

/-- What a step of one actor may change of its own phase. -/
structure State.Allows (s : State) (a : Nat) (p q : Phase) (serial : Nat) : Prop where
  handle : ∀ root found, q.handle = some (root, found) →
    p.handle = some (root, found) ∨ ∃ r, s.find root = some r ∧ r.lock = some found
  holds : ∀ file, q.holds = some file → p.holds = some file ∨ s.isLocked file = false
  secures : ∀ root file, q.secures = some (root, file) → (∃ r, s.find root = some r ∧ r.lock = some file) ∧
    ∀ (b : Nat) (r : Phase), b ≠ a → s.phases[b]? = some r → ∀ found, r.handle = some (root, found) → found = file
  identity : ∀ root file identity serial, q = .owner root file identity serial → identity = s.directoryIdentity root
  numbered : ∀ o, q.ownership = some o → s.serial ≤ o.1 ∧ o.1 < serial
  covers : ∀ c, q.inCensus = some c → c.Covers s

theorem State.Guarded.step (hs : s.Guarded) (ha : s.phases[a]? = some p) {serial : Nat} (hserial : s.serial ≤ serial)
    (hq : s.Allows a p q serial) : State.Guarded { s.setPhase a q with serial } := by
  have hphases : ∀ (b : Nat) (x : Phase), (s.setPhase a q).phases[b]? = some x →
      (b = a ∧ x = q) ∨ (b ≠ a ∧ s.phases[b]? = some x) := by
    intro b x hb
    rw [getElem?_setPhase] at hb
    split at hb
    · rename_i hab
      rw [ha] at hb
      exact .inl ⟨hab.symm, (Option.some.inj hb).symm⟩
    · rename_i hab
      exact .inr ⟨Ne.symm hab, hb⟩
  have hownerships : ∀ o ∈ ({ s.setPhase a q with serial } : State).ownerships,
      o ∈ s.ownerships ∨ q.ownership = some o := by
    intro o ho
    obtain ⟨b, x, hb, hx⟩ := mem_ownerships.1 ho
    rcases hphases b x hb with ⟨-, rfl⟩ | ⟨-, hb⟩
    · exact .inr hx
    · exact .inl (mem_ownerships.2 ⟨b, x, hb, hx⟩)
  have hmono : ∀ c : Census, c.Covers s → c.Covers { s.setPhase a q with serial } := fun c hc =>
    hc.mono hserial fun o ho => (hownerships o ho).imp_right fun ho => (hq.numbered o ho).1
  refine ⟨hs.names, fun b₁ b₂ x y file h₁ h₂ hx hy => ?_, fun b x root file hb hx => ?_,
    fun b x root file hb hx b' y hne hb' found hy => ?_, fun b root file identity serial' hb => ?_, fun o ho => ?_,
    fun b x c hb hc => hmono c ?_, hs.robbed, hs.reports⟩
  · rcases hphases b₁ x h₁ with ⟨rfl, rfl⟩ | ⟨-, hold₁⟩ <;> rcases hphases b₂ y h₂ with ⟨rfl, rfl⟩ | ⟨-, hold₂⟩
    · rfl
    · rcases hq.holds file hx with hp | hfree
      · exact hs.exclusive b₁ b₂ p y file ha hold₂ hp hy
      · exact absurd hy (not_holds_of_isLocked hfree hold₂)
    · rcases hq.holds file hy with hp | hfree
      · exact hs.exclusive b₁ b₂ x p file hold₁ ha hx hp
      · exact absurd hx (not_holds_of_isLocked hfree hold₁)
    · exact hs.exclusive b₁ b₂ x y file hold₁ hold₂ hx hy
  · rcases hphases b x hb with ⟨-, rfl⟩ | ⟨-, hold⟩
    · exact (hq.secures root file hx).1
    · exact hs.secured b x root file hold hx
  · rcases hphases b x hb with ⟨rfl, rfl⟩ | ⟨hba, hold⟩
    · rcases hphases b' y hb' with ⟨rfl, -⟩ | ⟨hne', hold'⟩
      · exact absurd rfl hne
      · exact (hq.secures root file hx).2 b' y hne' hold' found hy
    · rcases hphases b' y hb' with ⟨rfl, rfl⟩ | ⟨-, hold'⟩
      · rcases hq.handle root found hy with hp | ⟨r, hr, hlock⟩
        · exact hs.handles b x root file hold hx b' p hne ha found hp
        · obtain ⟨r', hr', hlock'⟩ := hs.secured b x root file hold hx
          obtain rfl := Option.some.inj (hr.symm.trans hr')
          exact Option.some.inj (hlock.symm.trans hlock')
      · exact hs.handles b x root file hold hx b' y hne hold' found hy
  · rcases hphases b _ hb with ⟨-, hq'⟩ | ⟨-, hb⟩
    · exact hq.identity root file identity serial' hq'.symm
    · exact hs.identity b root file identity serial' hb
  · rcases hownerships o ho with ho | ho
    · exact (hs.numbered o ho).trans_le hserial
    · exact (hq.numbered o ho).2
  · rcases hphases b x hb with ⟨-, rfl⟩ | ⟨-, hb⟩
    · exact hq.covers c hc
    · exact hs.covers b x c hb hc

theorem State.Guarded.setPhase (hs : s.Guarded) (ha : s.phases[a]? = some p) (hq : s.Allows a p q s.serial) :
    (s.setPhase a q).Guarded := hs.step ha le_rfl hq

theorem State.Allows.of_secures (hsecures : q.secures = none)
    (hhandle : ∀ root found, q.handle = some (root, found) →
      p.handle = some (root, found) ∨ ∃ r, s.find root = some r ∧ r.lock = some found)
    (hholds : ∀ file, q.holds = some file → p.holds = some file ∨ s.isLocked file = false)
    (hcovers : ∀ c, q.inCensus = some c → c.Covers s) : s.Allows a p q s.serial where
  handle := hhandle
  holds := hholds
  secures root file h := by simp [hsecures] at h
  identity root file identity serial h := by simp [h, Phase.secures] at hsecures
  numbered o h := by
    obtain ⟨file, hfile⟩ := Phase.secures_of_ownership h
    simp [hsecures] at hfile
  covers := hcovers

theorem State.Guarded.rest (hs : s.Guarded) (ha : s.phases[a]? = some p) (hhandle : q.handle = none)
    (hcovers : ∀ c, q.inCensus = some c → c.Covers s) : (s.setPhase a q).Guarded := by
  refine hs.setPhase ha (.of_secures ?_ ?_ ?_ hcovers)
  · cases q <;> first | rfl | simp [Phase.handle] at hhandle
  · intro root found h
    cases hhandle.symm.trans h
  · intro file h
    cases q <;> simp_all [Phase.handle, Phase.holds]

theorem State.Guarded.keep (hs : s.Guarded) (ha : s.phases[a]? = some p) (hsecures : q.secures = none)
    (hhandle : q.handle = p.handle) (hholds : q.holds = p.holds) (hcovers : ∀ c, q.inCensus = some c → c.Covers s) :
    (s.setPhase a q).Guarded :=
  hs.setPhase ha (.of_secures hsecures (fun _ _ h => .inl (hhandle ▸ h)) (fun _ h => .inl (hholds ▸ h)) hcovers)

theorem State.Guarded.refuse (hs : s.Guarded) (ha : s.phases[a]? = some p) {purpose : Purpose}
    (hcovers : ∀ c, purpose = .census c → c.Covers s) : (s.setPhase a (State.refused purpose)).Guarded := by
  cases purpose with
  | reclaim => exact hs.rest ha rfl nofun
  | census census => exact hs.rest ha rfl (fun c h => Option.some.inj h ▸ hcovers census rfl)

/-! ### The steps -/

theorem State.Guarded.opened (hs : s.Guarded) (ha : s.phases[a]? = some p)
    (h : s.openLockFile root inode = some (file, s')) (hsecures : q.secures = none)
    (hhandle : q.handle = some (root, file)) (hholds : q.holds = none) (hcovers : ∀ c, q.inCensus = some c → c.Covers s') : (s'.setPhase a q).Guarded := by
  obtain ⟨hs', hphases, hr⟩ := hs.openLockFile h
  have ha' : s'.phases[a]? = some p := hphases ▸ ha
  refine hs'.setPhase ha' (.of_secures hsecures (fun other found hfound => .inr ?_)
    (fun _ hfile => nomatch hholds.symm.trans hfile) hcovers)
  obtain ⟨rfl, rfl⟩ := Prod.mk.inj (Option.some.inj (hhandle.symm.trans hfound))
  exact hr

theorem State.Guarded.count (hs : s.Guarded) (ha : s.phases[a]? = some p) (hc : c.Covers s) : (s.count a c).Guarded := by
  unfold State.count
  split
  · exact hs.rest ha rfl (fun c' h => Option.some.inj h ▸ ⟨hc.numbered, hc.found⟩)
  · exact hs.rest ha rfl (fun c' h => Option.some.inj h ▸ ⟨hc.numbered, hc.found⟩)
  · have hidle : (s.setPhase a .idle).Guarded := hs.rest ha rfl nofun
    refine ⟨hidle.names, hidle.exclusive, hidle.secured, hidle.handles, hidle.identity, hidle.numbered,
      fun b q c hb hc => ⟨(hidle.covers b q c hb hc).numbered, (hidle.covers b q c hb hc).found⟩, hidle.robbed, ?_⟩
    intro report hreport o hsince huntil
    rcases List.mem_append.1 hreport with hold | hnew
    · exact hs.reports report hold o hsince huntil
    · -- The ownership was held all along, so its root was found and never claimed.
      obtain rfl := List.mem_singleton.1 hnew
      obtain ⟨hfound, hdead⟩ := hc.found o hsince huntil
      rcases hfound with howned | hname
      · exact List.mem_cons.2 (.inl howned)
      · exact List.mem_cons_of_mem _ (List.mem_filter.2 ⟨hname, by simpa using hdead⟩)

theorem State.Guarded.goOn {identity : Nat} {stage : Stage} (hs : s.Guarded)
    (ha : s.phases[a]? = some (.reclaiming root file identity stage)) (next : Stage) :
    (s.setPhase a (.reclaiming root file identity next)).Guarded :=
  hs.keep ha rfl rfl rfl nofun

theorem State.Guarded.reclaim {identity : Nat} {stage : Stage} (hs : s.Guarded)
    (ha : s.phases[a]? = some (.reclaiming root file identity stage)) : (s.reclaim a root file identity stage).Guarded := by
  unfold State.reclaim
  cases stage with
  | begin => exact hs.goOn ha _
  | check members => cases members <;> exact hs.goOn ha _
  | remove member members =>
    have hremoved :=
      hs.removal ha rfl rfl rfl (f := fun r => { r with members := r.members.filter (· ≠ member) }) fun _ => rfl
    exact hremoved.goOn ha _
  | list => exact hs.goOn ha _
  | recheck => exact hs.goOn ha _
  | unlink =>
    dsimp only
    split
    · have hremoved := hs.removal ha rfl rfl rfl (f := fun r => { r with lock := none }) fun _ => rfl
      exact hremoved.goOn ha _
    · exact hs.goOn ha _
  | removeRoot =>
    dsimp only
    split
    · have hremoved : State.Guarded { s with roots := s.roots.filter (·.name ≠ root) } := by
        refine hs.withRoots (hs.names.filter _) fun b q other file' r hb hq hr => ⟨r, ?_, rfl, rfl⟩
        have hne : other ≠ root := by
          rintro rfl
          exact hs.not_secured ha rfl rfl rfl hb hq
        have hmem : r ∈ s.roots.filter (·.name ≠ root) :=
          List.mem_filter.2 ⟨List.mem_of_find?_eq_some hr, by simpa [name_of_find hr] using hne⟩
        have hfind := (hs.names.filter _).find_key hmem
        rw [name_of_find hr] at hfind
        exact hfind
      have hnone : s.ownerships.filter (·.2 = root) = [] := by
        rw [List.filter_eq_nil_iff]
        intro o ho
        simpa using hs.ownerships_ne ha rfl rfl rfl o ho
      rw [hnone]
      exact hremoved.goOn ha _
    · exact hs.goOn ha _
  | done => exact hs.rest ha rfl nofun

theorem State.Guarded.advance (hs : s.Guarded) (ha : s.phases[a]? = some p) (hsecure : Secure s (a, .advance inode))
    (h : s.advance a inode p = some s') : s'.Guarded := by
  have hcovers := fun c => hs.covers a p c ha
  cases p with
  | idle => cases h
  | owner => cases h
  | made root =>
    rw [State.advance] at h
    split at h
    · cases h
      exact hs.rest ha rfl nofun
    · rename_i file s₁ hopen
      cases h
      exact hs.opened ha hopen rfl rfl rfl nofun
  | opened root file =>
    cases h
    by_cases hlocked : s.isLocked file
    · rw [if_pos hlocked]
      exact hs.rest ha rfl nofun
    · rw [if_neg hlocked]
      obtain ⟨hr, hother⟩ := hsecure inode root file rfl ha (by simpa using hlocked)
      refine hs.setPhase ha ⟨fun _ _ h => .inl h, fun _ h => .inr ?_, fun _ _ h => ?_, nofun,
        nofun, nofun⟩
      · simpa [← Option.some.inj h] using hlocked
      · cases h
        exact ⟨hr, hother⟩
  | secured root file =>
    cases h
    refine hs.step ha (Nat.le_succ _) ⟨fun _ _ h => .inl h, fun _ h => .inl h,
      fun _ _ h => ⟨hs.secured a _ _ _ ha h, fun b r hne hb found => hs.handles a _ _ _ ha h b r hne hb found⟩,
      fun root' file' identity serial h => ?_, fun o h => ?_, nofun⟩
    · obtain ⟨rfl, -, rfl, -⟩ := Phase.owner.inj h
      rfl
    · cases h
      exact ⟨le_rfl, Nat.lt_succ_self _⟩
  | counting census =>
    cases h
    exact hs.count ha (hcovers census rfl)
  | trying candidate purpose =>
    have hpurpose : ∀ c, purpose = .census c → c.Covers s := by
      rintro c rfl
      exact hcovers c rfl
    rw [State.advance] at h
    split at h
    · cases h
      exact hs.refuse ha hpurpose
    · split at h
      · cases h
        exact hs.refuse ha hpurpose
      · rename_i file s₁ hopen
        cases h
        obtain ⟨hs₁, hphases, -⟩ := hs.openLockFile hopen
        refine hs.opened ha hopen rfl rfl rfl fun c hc => ?_
        refine hs₁.covers a (.trying candidate purpose) c (hphases ▸ ha) ?_
        cases purpose with
        | reclaim => cases hc
        | census census => exact hc
  | tried candidate file purpose =>
    have hpurpose : ∀ c, purpose = .census c → c.Covers s := by
      rintro c rfl
      exact hcovers c rfl
    cases h
    by_cases hlocked : s.isLocked file
    · rw [if_pos hlocked]
      exact hs.refuse ha hpurpose
    · rw [if_neg hlocked]
      refine hs.setPhase ha (.of_secures rfl (fun _ _ h => .inl h) (fun _ h => .inr ?_) fun c hc => hcovers c ?_)
      · simpa [← Option.some.inj h] using hlocked
      · cases purpose with
        | reclaim => cases hc
        | census census => exact hc
  | held candidate file purpose =>
    cases hidentity : s.directoryIdentity candidate.root with
    | none =>
      have h : s.setPhase a (State.refused purpose) = s' := by
        cases purpose <;> simpa [State.advance, hidentity] using h
      subst h
      exact hs.refuse ha fun c hc => hcovers c (hc ▸ rfl)
    | some found =>
      cases purpose with
      | reclaim =>
        simp only [State.advance, hidentity] at h
        cases h
        split
        · exact hs.keep ha rfl rfl rfl nofun
        · exact hs.rest ha rfl nofun
      | census census =>
        simp only [State.advance, hidentity] at h
        cases h
        split
        · exact hs.keep ha rfl rfl rfl hcovers
        · exact hs.rest ha rfl hcovers
  | counted root file census =>
    cases h
    refine hs.rest ha rfl fun c hc => ?_
    cases hc
    refine ⟨(hcovers census rfl).numbered, fun o hsince ho => ?_⟩
    obtain ⟨hfound, hdead⟩ := (hcovers census rfl).found o hsince ho
    refine ⟨hfound, fun hmem => ?_⟩
    rcases List.mem_append.1 hmem with hold | hnew
    · exact hdead hold
    · exact hs.ownerships_ne ha rfl rfl rfl o ho (List.mem_singleton.1 hnew)
  | reclaiming root file identity stage =>
    cases h
    exact hs.reclaim ha

theorem State.Guarded.spawn (hs : s.Guarded) : State.Guarded { s with phases := s.phases ++ [.idle] } := by
  have hphases : ∀ (b : Nat) (x : Phase), (s.phases ++ [Phase.idle])[b]? = some x → x = .idle ∨ s.phases[b]? = some x := by
    intro b x hb
    rw [List.getElem?_append] at hb
    split at hb
    · exact .inr hb
    · exact .inl (List.mem_singleton.1 (List.mem_of_getElem? hb))
  have hownerships : ({ s with phases := s.phases ++ [.idle] } : State).ownerships = s.ownerships := by
    simp [State.ownerships, List.filterMap_append, Phase.ownership]
  refine ⟨hs.names, fun a b p q file ha hb hp hq => ?_, fun a p root file ha hp => ?_,
    fun a p root file ha hp b q hne hb found hq => ?_, fun a root file identity serial ha => ?_,
    hownerships ▸ hs.numbered, fun a p c ha hc => ?_, hs.robbed, hs.reports⟩
  · rcases hphases a p ha with rfl | ha
    · cases hp
    · rcases hphases b q hb with rfl | hb
      · cases hq
      · exact hs.exclusive a b p q file ha hb hp hq
  · rcases hphases a p ha with rfl | ha
    · cases hp
    · exact hs.secured a p root file ha hp
  · rcases hphases a p ha with rfl | ha
    · cases hp
    · rcases hphases b q hb with rfl | hb
      · cases hq
      · exact hs.handles a p root file ha hp b q hne hb found hq
  · rcases hphases a _ ha with h | ha
    · cases h
    · exact hs.identity a root file identity serial ha
  · rcases hphases a p ha with rfl | ha
    · cases hc
    · exact ⟨(hs.covers a p c ha hc).numbered, hownerships ▸ (hs.covers a p c ha hc).found⟩

theorem State.Guarded.create (hs : s.Guarded) (hnew : s.find root = none) :
    State.Guarded { s with roots := s.roots ++ [⟨root, inode, none, []⟩] } := by
  refine hs.withRoots (hs.names.insert fun r hr => ?_) fun a p other file r ha hp hr => ⟨r, ?_, rfl, rfl⟩
  · simpa using List.find?_eq_none.1 hnew r hr
  · rw [State.find, List.find?_append]
    exact Option.or_eq_some_iff.2 (.inl hr)

theorem State.Guarded.census (hs : s.Guarded) (ha : s.phases[a]? = some p) {owned : Uuid} {names : List Uuid}
    (hnames : names = (s.roots.map Root.name).filter (· ≠ owned)) :
    (s.setPhase a (.counting ⟨owned, s.ownerships, names, names, [], []⟩)).Guarded := by
  refine hs.rest ha rfl fun c hc => ?_
  cases hc
  refine ⟨hs.numbered, fun o ho _ => ⟨?_, List.not_mem_nil⟩⟩
  obtain ⟨b, q, hb, hq⟩ := mem_ownerships.1 ho
  obtain ⟨file, hfile⟩ := Phase.secures_of_ownership hq
  obtain ⟨r, hr, -⟩ := hs.secured b q o.2 file hb hfile
  by_cases howned : o.2 = owned
  · exact .inl howned
  · refine .inr (hnames ▸ List.mem_filter.2 ⟨?_, by simpa using howned⟩)
    exact List.mem_map.2 ⟨r, List.mem_of_find?_eq_some hr, name_of_find hr⟩

theorem State.Guarded.exec {input : Nat × Action} (hs : s.Guarded) (hsecure : Secure s input)
    (h : s.exec input = some s') : s'.Guarded := by
  obtain ⟨a, action⟩ := input
  obtain ⟨p, ha, h⟩ := Option.bind_eq_some_iff.1 h
  cases action with
  | spawn =>
    cases h
    exact hs.spawn
  | acquireNew root inode =>
    obtain ⟨⟨-, hnew, -⟩, h⟩ := Option.ite_none_right_eq_some.1 h
    cases h
    exact (hs.create hnew).rest ha rfl nofun
  | claim root =>
    obtain ⟨-, h⟩ := Option.ite_none_right_eq_some.1 h
    cases h
    exact hs.rest ha rfl nofun
  | census owned =>
    obtain ⟨-, h⟩ := Option.ite_none_right_eq_some.1 h
    cases h
    exact hs.census ha rfl
  | advance inode => exact hs.advance ha hsecure h
  | crash =>
    cases h
    exact hs.rest ha rfl nofun
  | write member =>
    cases p with
    | owner root file identity serial =>
      cases h
      exact hs.updateRoot (fun _ => rfl) fun _ _ _ _ _ _ _ => ⟨rfl, rfl⟩
    | _ => cases h

theorem State.Initial.guarded (h : s.Initial) : s.Guarded := by
  have hidle : ∀ (a : Nat) (p : Phase), s.phases[a]? = some p → p = .idle := by
    intro a p ha
    rw [h.phases] at ha
    exact List.mem_singleton.1 (List.mem_of_getElem? ha)
  have hownerships : s.ownerships = [] := by simp [State.ownerships, h.phases, Phase.ownership]
  refine ⟨h.names, fun a b p q file ha _ hp _ => ?_, fun a p root file ha hp => ?_, fun a p root file ha hp => ?_,
    fun a root file identity serial ha => (nomatch hidle a _ ha), by simp [hownerships], fun a p c ha hc => ?_, h.robbed,
    by simp [h.reports]⟩
  · rw [hidle a p ha] at hp
    cases hp
  · rw [hidle a p ha] at hp
    cases hp
  · rw [hidle a p ha] at hp
    cases hp
  · rw [hidle a p ha] at hc
    cases hc

theorem State.Guarded.exclusion (hs : s.Guarded) : s.Exclusive := by
  refine ⟨fun a root file identity serial ha => ?_, fun a root file identity serial ha q hq hclaims => ?_, hs.robbed,
    hs.reports⟩
  · obtain ⟨r, hr, -⟩ := hs.secured a _ root file ha rfl
    have hidentity := directoryIdentity_of_find hr
    exact ⟨r.inode, (hs.identity a root file identity serial ha).trans hidentity, hidentity⟩
  · obtain ⟨b, hb⟩ := List.mem_iff_getElem?.1 hq
    obtain ⟨found, hhandle, hholds, hsecures⟩ := Phase.handle_of_claims hclaims
    exact hs.not_secured hb hhandle hholds hsecures ha rfl

theorem roots_exclusive {trace : List (State × (Nat × Action) × Unit)} (h : Run dataDirectory Secure trace s) :
    s.Exclusive :=
  State.Guarded.exclusion <| h.invariant (P := State.Guarded) (fun _ h => State.Initial.guarded h)
    fun _ _ _ _ hs hsecure h => hs.exec hsecure h

/-- Whether `Secure` holds of a step of an actor. -/
def State.isSecure (s : State) (a : Nat) : Bool :=
  match s.phases[a]? with
  | some (.opened root file) =>
    (s.find root).any (·.lock = some file) ∧
      ∀ phase ∈ s.phases.eraseIdx a, phase.handle.all fun h => h.1 = root → h.2 = file
  | _ => true

theorem secure_of_isSecure (s : State) (input : Nat × Action) (h : s.isSecure input.1 = true) : Secure s input := by
  intro inode root file _ ha _
  simp only [State.isSecure, ha, decide_eq_true_eq, Option.any_eq_true] at h
  obtain ⟨⟨r, hr, hlock⟩, hothers⟩ := h
  refine ⟨⟨r, hr, by simpa using hlock⟩, fun b phase hb hphase found hfound => ?_⟩
  have hother := hothers phase (List.mem_eraseIdx_iff_getElem?.2 ⟨b, hb, hphase⟩)
  simpa [hfound] using hother

/-- An instance takes its root; another one counts it as live, and a reclaimer leaves it alone. -/
theorem roots_exclusive_undisturbed : ∃ trace s, Run dataDirectory Secure trace s ∧
    (s.phases[0]? = some (.owner someRoot 20 (some 10) 0) ∧
      s.reports.map Report.live = [[someUuid 2, someRoot]] ∧ s.find someRoot ≠ none) ∧ s.Exclusive := by
  obtain ⟨trace, s, hrun, hs⟩ := Runs.exists_run (G := Secure) State.Initial State.exec ⟨[], [.idle], 0, [], []⟩
    ⟨unique_nil, rfl, rfl, rfl⟩ (fun s input => s.isSecure input.1) secure_of_isSecure
    (List.flatten [[(0, .spawn), (0, .acquireNew someRoot 10), (0, .advance 20), (0, .advance 0), (0, .advance 0),
      (1, .census (someUuid 2))], List.replicate 5 (1, .advance 0),
      [(1, .claim someRoot), (1, .advance 0), (1, .advance 0)]])
    (fun s => s.phases[0]? = some (.owner someRoot 20 (some 10) 0) ∧
      s.reports.map Report.live = [[someUuid 2, someRoot]] ∧ s.find someRoot ≠ none) (by decide +kernel)
  exact ⟨trace, s, hrun, hs, roots_exclusive hrun⟩

end Krometrail.Instances
