import ApiGloss.Version
import Mathlib.Data.List.Basic
import Mathlib.Data.List.TakeWhile

/-!
# The Order of Versions, and Which Candidate a Request Gets

Versions are compared by rank. The rank holds all parts of a version, so that versions of the
same rank are equal (`Version.rank_injective`) and `Version.atMost` is a total order. On that
order, the candidates that a request may use are those between the default version and the
request, and following them in sequence ends at the greatest; of several candidates that spell
the greatest version, the last one counts.

## Main results

* `Version.follow_eq_some`, `Version.follow_eq_found`: what following candidates ends at.
* `Version.resolve_perm`: if no two candidates spell the same version, the answer to a request
  does not depend on their order.
* `Version.resolve_greatest`: which candidate a request gets, and that a later request never gets
  an earlier version.
-/

namespace ApiGloss.Version

/-! ### The rank of a version -/

private theorem map_toNat_injective {a b : List Char}
    (h : a.map Char.toNat = b.map Char.toNat) : a = b :=
  List.map_injective_iff.mpr (fun _ _ hc => Char.toNat_inj.mp hc) h

/-- Pre-release identifiers of the same rank are equal. -/
theorem preRank_injective {a b : List Char} (h : preRank a = preRank b) : a = b := by
  unfold preRank at h
  split at h <;> split at h
  · exact map_toNat_injective (List.cons.inj (List.cons.inj h).2).2
  · cases (List.cons.inj h).1
  · cases (List.cons.inj h).1
  · exact map_toNat_injective (List.cons.inj h).2

/-- A text is determined by its length and by what follows its leading zeros. -/
theorem eq_of_dropWhile_zero {a b : List Char}
    (hdrop : a.dropWhile (· == '0') = b.dropWhile (· == '0'))
    (hlen : a.length = b.length) : a = b := by
  have hzeros : ∀ s : List Char, s.takeWhile (· == '0') =
      List.replicate (s.takeWhile (· == '0')).length '0' := by
    intro s
    refine List.eq_replicate_of_mem fun c hc => ?_
    have := List.mem_takeWhile_imp hc
    simpa using this
  have ha := List.takeWhile_append_dropWhile (p := (· == '0')) (l := a)
  have hb := List.takeWhile_append_dropWhile (p := (· == '0')) (l := b)
  have hcount : (a.takeWhile (· == '0')).length = (b.takeWhile (· == '0')).length := by
    have hla := congrArg List.length ha
    have hlb := congrArg List.length hb
    rw [List.length_append] at hla hlb
    rw [hdrop] at hla
    omega
  rw [← ha, ← hb, hzeros a, hzeros b, hcount, hdrop]

/-- Build identifiers of the same rank are equal. -/
theorem buildRank_injective {a b : List Char} (h : buildRank a = buildRank b) : a = b := by
  unfold buildRank at h
  split at h <;> split at h
  · obtain ⟨hlen, htail⟩ := List.cons.inj (List.cons.inj h).2
    obtain ⟨hvalue, hlast⟩ := List.append_inj htail (by
      rw [List.length_map, List.length_map]
      exact hlen)
    exact eq_of_dropWhile_zero (map_toNat_injective hvalue) (List.cons.inj hlast).1
  · cases (List.cons.inj h).1
  · cases (List.cons.inj h).1
  · exact map_toNat_injective (List.cons.inj h).2

/-- **Versions of the same rank are equal.** -/
theorem rank_injective {a b : Version} (h : a.rank = b.rank) : a = b := by
  obtain ⟨major, minor, patch, pre, build⟩ := a
  obtain ⟨major', minor', patch', pre', build'⟩ := b
  simp only [rank, List.cons.injEq, and_true] at h
  obtain ⟨rfl, rfl, rfl, hpre, hbuild⟩ := h
  have hb : build = build' :=
    List.map_injective_iff.mpr (fun _ _ => buildRank_injective) hbuild
  have hp : pre = pre' := by
    split at hpre <;> split at hpre
    · rename_i h₁ h₂
      rw [h₁, h₂]
    · cases (List.cons.inj (List.cons.inj hpre).1).1
    · cases (List.cons.inj (List.cons.inj hpre).1).1
    · exact List.map_injective_iff.mpr (fun _ _ => preRank_injective) (List.cons.inj hpre).2
  rw [hp, hb]

/-! ### A total order -/

/-- Every version is at most itself. -/
theorem atMost_refl (a : Version) : atMost a a = true := by
  show (compare a.rank a.rank).isLE = true
  exact Std.ReflCmp.isLE_rfl

/-- `atMost` is transitive. -/
theorem atMost_trans {a b c : Version} (hab : atMost a b = true) (hbc : atMost b c = true) :
    atMost a c = true := by
  change (compare a.rank b.rank).isLE = true at hab
  change (compare b.rank c.rank).isLE = true at hbc
  show (compare a.rank c.rank).isLE = true
  exact Std.TransCmp.isLE_trans hab hbc

/-- Of two versions one is at most the other. -/
theorem atMost_total (a b : Version) : atMost a b = true ∨ atMost b a = true := by
  show (compare a.rank b.rank).isLE = true ∨ (compare b.rank a.rank).isLE = true
  have hswap : compare b.rank a.rank = (compare a.rank b.rank).swap := Std.OrientedCmp.eq_swap
  rw [hswap]
  cases compare a.rank b.rank <;> simp

/-- Versions that are at most each other are equal. -/
theorem atMost_antisymm {a b : Version} (hab : atMost a b = true) (hba : atMost b a = true) :
    a = b := by
  change (compare a.rank b.rank).isLE = true at hab
  change (compare b.rank a.rank).isLE = true at hba
  exact rank_injective (Std.LawfulEqCmp.eq_of_compare (Std.OrientedCmp.isLE_antisymm hab hba))

/-! ### Following candidates -/

/-- A candidate is **admissible** if it spells a version between the baseline and the
request. -/
def Admissible (requested baseline : Version) (candidate : String) (v : Version) : Prop :=
  parse? candidate = some v ∧ atMost v requested = true ∧ atMost baseline v = true

/-- The **greatest** of the admissible candidates, by version; of those that spell the same
version the last one. -/
def LastGreatest (requested baseline : Version) (candidates : List String)
    (candidate : String) : Prop :=
  ∃ before after v, candidates = before ++ candidate :: after ∧
    Admissible requested baseline candidate v ∧
    (∀ c ∈ candidates, ∀ w, Admissible requested baseline c w → atMost w v = true) ∧
    ∀ c ∈ after, parse? c ≠ some v

variable {requested baseline : Version} {found : Option String} {candidates : List String}

/-- An admissible candidate is taken and raises the baseline. -/
theorem follow_cons_of_admissible {candidate : String} {v : Version}
    (h : Admissible requested baseline candidate v) (rest : List String) :
    follow requested baseline found (candidate :: rest) =
      follow requested v (some candidate) rest := by
  obtain ⟨hparse, hle, hge⟩ := h
  rw [follow, hparse]
  simp only [hle, hge, Bool.and_self, if_true]

/-- A candidate that is not admissible is passed over. -/
theorem follow_cons_of_not_admissible {candidate : String}
    (h : ∀ v, ¬ Admissible requested baseline candidate v) (rest : List String) :
    follow requested baseline found (candidate :: rest) =
      follow requested baseline found rest := by
  rw [follow]
  split
  · rename_i v hparse
    rw [if_neg]
    intro hb
    obtain ⟨hle, hge⟩ := Bool.and_eq_true_iff.mp hb
    exact h v ⟨hparse, hle, hge⟩
  · rfl

/-- Without admissible candidates nothing is taken. -/
theorem follow_eq_found
    (h : ∀ c ∈ candidates, ∀ v, ¬ Admissible requested baseline c v) :
    follow requested baseline found candidates = found := by
  induction candidates with
  | nil => rfl
  | cons c rest ih =>
      rw [follow_cons_of_not_admissible (h c List.mem_cons_self)]
      exact ih fun c' hc' => h c' (List.mem_cons_of_mem _ hc')

/-- **Following candidates ends at the greatest** admissible one, if there is any. -/
theorem follow_eq_some (found : Option String)
    (h : ∃ c ∈ candidates, ∃ v, Admissible requested baseline c v) :
    ∃ candidate, follow requested baseline found candidates = some candidate ∧
      LastGreatest requested baseline candidates candidate := by
  induction candidates generalizing baseline found with
  | nil =>
      obtain ⟨c, hc, -⟩ := h
      cases hc
  | cons c rest ih =>
      by_cases hadm : ∃ v, Admissible requested baseline c v
      · obtain ⟨v, hv⟩ := hadm
        rw [follow_cons_of_admissible hv]
        by_cases hmore : ∃ c' ∈ rest, ∃ w, Admissible requested v c' w
        · obtain ⟨candidate, hfollow, before, after, w, hsplit, hw, hmax, hlast⟩ :=
            ih (some c) hmore
          refine ⟨candidate, hfollow, c :: before, after, w, by rw [hsplit, List.cons_append],
            ⟨hw.1, hw.2.1, atMost_trans hv.2.2 hw.2.2⟩, ?_, hlast⟩
          -- below the raised baseline everything is below the greatest as well
          intro c' hc' u hu
          rcases List.mem_cons.mp hc' with rfl | hc'
          · obtain rfl : v = u := Option.some.inj (hv.1.symm.trans hu.1)
            exact hw.2.2
          · rcases atMost_total v u with hvu | huv
            · exact hmax c' hc' u ⟨hu.1, hu.2.1, hvu⟩
            · exact atMost_trans huv hw.2.2
        · have hnone : ∀ c' ∈ rest, ∀ w, ¬ Admissible requested v c' w :=
            fun c' hc' w hw => hmore ⟨c', hc', w, hw⟩
          refine ⟨c, follow_eq_found hnone, [], rest, v, rfl, hv, ?_, ?_⟩
          · intro c' hc' u hu
            rcases List.mem_cons.mp hc' with rfl | hc'
            · obtain rfl : v = u := Option.some.inj (hv.1.symm.trans hu.1)
              exact atMost_refl v
            · rcases atMost_total v u with hvu | huv
              · exact absurd ⟨hu.1, hu.2.1, hvu⟩ (hnone c' hc' u)
              · exact huv
          · intro c' hc' hparse
            exact hnone c' hc' v ⟨hparse, hv.2.1, atMost_refl v⟩
      · have hnot : ∀ v, ¬ Admissible requested baseline c v := fun v hv => hadm ⟨v, hv⟩
        rw [follow_cons_of_not_admissible hnot]
        obtain ⟨c', hc', v, hv⟩ := h
        rcases List.mem_cons.mp hc' with rfl | hc'
        · exact absurd hv (hnot v)
        obtain ⟨candidate, hfollow, before, after, w, hsplit, hw, hmax, hlast⟩ :=
          ih found ⟨c', hc', v, hv⟩
        refine ⟨candidate, hfollow, c :: before, after, w, by rw [hsplit, List.cons_append],
          hw, ?_, hlast⟩
        intro c'' hc'' u hu
        rcases List.mem_cons.mp hc'' with rfl | hc''
        · exact absurd hu (hnot u)
        · exact hmax c'' hc'' u hu

/-! ### The order of the candidates -/

/-- Two texts **spell the same version**. -/
def SameVersion (a b : String) : Prop :=
  ∃ v, parse? a = some v ∧ parse? b = some v

instance (a b : String) : Decidable (SameVersion a b) :=
  decidable_of_iff ((parse? a).isSome ∧ parse? b = parse? a) <| by
    rw [Option.isSome_iff_exists]
    refine ⟨fun ⟨⟨v, hv⟩, h⟩ => ⟨v, hv, h.trans hv⟩, fun ⟨v, hv, hw⟩ => ⟨⟨v, hv⟩, ?_⟩⟩
    rw [hv, hw]

/-- Among candidates that spell different versions, there is one greatest at most, wherever
the candidates stand. -/
theorem LastGreatest.unique {others : List String} {c d : String}
    (hsub : ∀ c ∈ others, c ∈ candidates)
    (hdiff : ∀ a ∈ candidates, ∀ b ∈ candidates, SameVersion a b → a = b)
    (hc : LastGreatest requested baseline candidates c)
    (hd : LastGreatest requested baseline others d)
    (hback : ∀ c ∈ candidates, c ∈ others) : c = d := by
  obtain ⟨before, after, v, hsplit, hv, hmax, -⟩ := hc
  obtain ⟨before', after', w, hsplit', hw, hmax', -⟩ := hd
  have hmem : c ∈ candidates := by
    rw [hsplit]
    exact List.mem_append_right _ List.mem_cons_self
  have hmem' : d ∈ others := by
    rw [hsplit']
    exact List.mem_append_right _ List.mem_cons_self
  have hvw : v = w :=
    atMost_antisymm (hmax' c (hback c hmem) v hv) (hmax d (hsub d hmem') w hw)
  subst hvw
  exact hdiff c hmem d (hsub d hmem') ⟨v, hv.1, hw.1⟩

/-- **The order of the candidates does not matter** if no two of them spell the same
version. -/
theorem resolve_perm {others : List String} (hperm : candidates.Perm others)
    (hdiff : ∀ a ∈ candidates, ∀ b ∈ candidates, SameVersion a b → a = b)
    (request fallback : String) :
    resolve candidates request fallback = resolve others request fallback := by
  have hmem : ∀ c, c ∈ candidates ↔ c ∈ others := fun c => hperm.mem_iff
  have hcontains : candidates.contains request = others.contains request := by
    rw [Bool.eq_iff_iff, List.contains_iff_mem, List.contains_iff_mem]
    exact hmem request
  unfold resolve
  rw [hcontains]
  split
  · rfl
  · split
    · rename_i r base _ _
      by_cases hadm : ∃ c ∈ candidates, ∃ v, Admissible r base c v
      · have hadm' : ∃ c ∈ others, ∃ v, Admissible r base c v := by
          obtain ⟨c, hc, hv⟩ := hadm
          exact ⟨c, (hmem c).mp hc, hv⟩
        obtain ⟨c, hfollow, hgreatest⟩ := follow_eq_some none hadm
        obtain ⟨d, hfollow', hgreatest'⟩ := follow_eq_some none hadm'
        rw [hfollow, hfollow', hgreatest.unique (fun c => (hmem c).mpr) hdiff hgreatest'
          fun c => (hmem c).mp]
      · have hnone : ∀ c ∈ candidates, ∀ v, ¬ Admissible r base c v :=
          fun c hc v hv => hadm ⟨c, hc, v, hv⟩
        rw [follow_eq_found hnone, follow_eq_found fun c hc => hnone c ((hmem c).mpr hc)]
    · rfl

/-! ### Which candidate a request gets -/

variable {r base : Version} {c : String}

/-- The greatest candidate is one of the candidates, and it is admissible. -/
theorem LastGreatest.spec (h : LastGreatest r base candidates c) :
    c ∈ candidates ∧ ∃ v, Admissible r base c v ∧
      ∀ c' ∈ candidates, ∀ w, Admissible r base c' w → atMost w v = true := by
  obtain ⟨before, after, v, rfl, hv, hmax, -⟩ := h
  exact ⟨List.mem_append_right _ List.mem_cons_self, v, hv, hmax⟩

/-- **There is one greatest candidate at most**: the list settles where the last spelling of the
greatest version stands. -/
theorem LastGreatest.eq {d : String} (hc : LastGreatest r base candidates c)
    (hd : LastGreatest r base candidates d) : c = d := by
  obtain ⟨before, after, v, hsplit, hv, hmax, hlast⟩ := hc
  obtain ⟨before', after', w, hsplit', hw, hmax', hlast'⟩ := hd
  have hmem : c ∈ candidates := hsplit ▸ List.mem_append_right _ List.mem_cons_self
  have hmem' : d ∈ candidates := hsplit' ▸ List.mem_append_right _ List.mem_cons_self
  obtain rfl : v = w := atMost_antisymm (hmax' c hmem v hv) (hmax d hmem' w hw)
  -- if one stood before the other, it would not be the last of its version
  rcases List.append_eq_append_iff.mp (hsplit.symm.trans hsplit') with
    ⟨between, -, htail⟩ | ⟨between, -, htail⟩
  · cases between with
    | nil => exact (List.cons.inj htail).1
    | cons x between =>
        have hd : d ∈ after := by
          rw [(List.cons.inj htail).2]
          exact List.mem_append_right _ List.mem_cons_self
        exact absurd hw.1 (hlast d hd)
  · cases between with
    | nil => exact (List.cons.inj htail).1.symm
    | cons x between =>
        have hc : c ∈ after' := by
          rw [(List.cons.inj htail).2]
          exact List.mem_append_right _ List.mem_cons_self
        exact absurd hv.1 (hlast' c hc)

/-- Following candidates from the start ends at the greatest one, and nowhere else. -/
theorem follow_eq_some_iff :
    follow r base none candidates = some c ↔ LastGreatest r base candidates c := by
  constructor
  · intro h
    by_cases hadm : ∃ c' ∈ candidates, ∃ v, Admissible r base c' v
    · obtain ⟨d, hfollow, hgreatest⟩ := follow_eq_some none hadm
      obtain rfl : d = c := Option.some.inj (hfollow.symm.trans h)
      exact hgreatest
    · have hnone : follow r base none candidates = none :=
        follow_eq_found fun c' hc' v hv => hadm ⟨c', hc', v, hv⟩
      rw [hnone] at h
      cases h
  · intro h
    obtain ⟨hmem, v, hv, -⟩ := h.spec
    obtain ⟨d, hfollow, hgreatest⟩ := follow_eq_some none ⟨c, hmem, v, hv⟩
    rw [hfollow, hgreatest.eq h]

/-- Following candidates from the start ends nowhere if none of them is admissible. -/
theorem follow_eq_none_iff :
    follow r base none candidates = none ↔
      ∀ c ∈ candidates, ∀ v, ¬ Admissible r base c v := by
  refine ⟨fun h c hc v hv => ?_, follow_eq_found⟩
  obtain ⟨d, hfollow, -⟩ := follow_eq_some none ⟨c, hc, v, hv⟩
  rw [hfollow] at h
  cases h

variable {request fallback : String}

/-- A request that is among the candidates gets itself. -/
theorem resolve_of_mem (h : request ∈ candidates) :
    resolve candidates request fallback = some request := by
  rw [resolve, if_pos (List.contains_iff_mem.mpr h)]

/-- **Any other request** follows the candidates, if it and the default spell versions. -/
theorem resolve_of_not_mem (h : request ∉ candidates) :
    resolve candidates request fallback =
      (parse? request).bind fun r => (parse? fallback).bind fun base =>
        follow r base none candidates := by
  have hcontains : ¬ candidates.contains request = true :=
    fun hc => h (List.contains_iff_mem.mp hc)
  rw [resolve, if_neg hcontains]
  cases parse? request <;> cases parse? fallback <;> rfl

/-- What a request gets that is not among the candidates. -/
theorem resolve_eq_some_iff (h : request ∉ candidates) :
    resolve candidates request fallback = some c ↔
      ∃ r base, parse? request = some r ∧ parse? fallback = some base ∧
        LastGreatest r base candidates c := by
  simp only [resolve_of_not_mem h, Option.bind_eq_some_iff, follow_eq_some_iff,
    exists_and_left]

/-- When a request gets nothing. -/
theorem resolve_eq_none_iff :
    resolve candidates request fallback = none ↔
      request ∉ candidates ∧ ∀ r base, parse? request = some r → parse? fallback = some base →
        ∀ c ∈ candidates, ∀ v, ¬ Admissible r base c v := by
  by_cases hmem : request ∈ candidates
  · simp [resolve_of_mem hmem, hmem]
  · rw [resolve_of_not_mem hmem]
    simp only [hmem, not_false_eq_true, true_and, Option.bind_eq_none_iff, follow_eq_none_iff]
    exact ⟨fun h r base hr hbase => h r hr base hbase, fun h r hr base hbase => h r base hr hbase⟩

/-- A request gets a candidate whose version is at most its own. -/
theorem atMost_of_resolve (hr : parse? request = some r)
    (h : resolve candidates request fallback = some c) :
    c ∈ candidates ∧ ∃ v, parse? c = some v ∧ atMost v r = true := by
  by_cases hmem : request ∈ candidates
  · rw [resolve_of_mem hmem] at h
    obtain rfl := Option.some.inj h
    exact ⟨hmem, r, hr, atMost_refl r⟩
  · obtain ⟨r', base, hr', -, hgreatest⟩ := (resolve_eq_some_iff hmem).mp h
    obtain rfl : r' = r := Option.some.inj (hr'.symm.trans hr)
    obtain ⟨hc, v, hv, -⟩ := hgreatest.spec
    exact ⟨hc, v, hv.1, hv.2.1⟩

/-- **A later request gets a later version.** A candidate below the default version is got by
asking for it, and is below everything that the other requests get. -/
theorem resolve_mono {request' : String} {r' : Version} {c' : String}
    (hr : parse? request = some r) (hr' : parse? request' = some r')
    (hle : atMost r r' = true) (h : resolve candidates request fallback = some c)
    (h' : resolve candidates request' fallback = some c') :
    ∃ v v', parse? c = some v ∧ parse? c' = some v' ∧ atMost v v' = true := by
  obtain ⟨hmem, v, hv, hvr⟩ := atMost_of_resolve hr h
  have hvr' : atMost v r' = true := atMost_trans hvr hle
  by_cases hmem' : request' ∈ candidates
  · rw [resolve_of_mem hmem'] at h'
    obtain rfl := Option.some.inj h'
    exact ⟨v, r', hv, hr', hvr'⟩
  · obtain ⟨r'', base, hr'', hbase, hgreatest⟩ := (resolve_eq_some_iff hmem').mp h'
    obtain rfl : r'' = r' := Option.some.inj (hr''.symm.trans hr')
    obtain ⟨-, v', hv', hmax⟩ := hgreatest.spec
    refine ⟨v, v', hv, hv'.1, ?_⟩
    rcases atMost_total base v with hbv | hvb
    · exact hmax c hmem v ⟨hv, hvr', hbv⟩
    · exact atMost_trans hvb hv'.2.2

/-- **A request gets the greatest admissible candidate.** A request that is literally among the
candidates gets itself. Any other one gets the candidate whose version is the greatest between the
default version and the request, the last of those that spell it; it gets nothing exactly if the
request or the default spells no version or no candidate is admissible. So of two requests the
later one never gets the earlier version. -/
theorem resolve_greatest (candidates : List String) (request fallback : String) :
    (request ∈ candidates → resolve candidates request fallback = some request) ∧
    (request ∉ candidates → ∀ c, resolve candidates request fallback = some c ↔
      ∃ r base, parse? request = some r ∧ parse? fallback = some base ∧
        LastGreatest r base candidates c) ∧
    (resolve candidates request fallback = none ↔
      request ∉ candidates ∧ ∀ r base, parse? request = some r → parse? fallback = some base →
        ∀ c ∈ candidates, ∀ v, ¬ Admissible r base c v) ∧
    ∀ request' r r' c c', parse? request = some r → parse? request' = some r' →
      atMost r r' = true → resolve candidates request fallback = some c →
      resolve candidates request' fallback = some c' →
      ∃ v v', parse? c = some v ∧ parse? c' = some v' ∧ atMost v v' = true :=
  ⟨resolve_of_mem, fun hmem _ => resolve_eq_some_iff hmem, resolve_eq_none_iff,
    fun _ _ _ _ _ hr hr' hle h h' => resolve_mono hr hr' hle h h'⟩

/-- Candidates out of order: two spellings of one version, a pre-release, one that spells no version
and one below the default version. -/
def unsortedCandidates : List String :=
  ["1.3.0", "latest", "1.4.0-beta", "v1.3.0", "0.4.0", "1.2.0"]

/-- A request gets the last spelling of the greatest version below it, a later one the pre-release
of its own version, and the candidate below the default version is got by asking for it only. -/
theorem resolve_greatest_unsorted :
    (∃ r base, parse? "1.3.5" = some r ∧ parse? "0.5.0" = some base ∧
      LastGreatest r base unsortedCandidates "v1.3.0") ∧
    resolve unsortedCandidates "0.4.0" "0.5.0" = some "0.4.0" ∧
    (∀ c ∈ unsortedCandidates, ∀ v, ¬ Admissible ⟨0, 9, 0, [], []⟩ ⟨0, 5, 0, [], []⟩ c v) ∧
    ∃ v v', parse? "v1.3.0" = some v ∧ parse? "1.4.0-beta" = some v' ∧ atMost v v' = true := by
  have hearlier : resolve unsortedCandidates "1.3.5" "0.5.0" = some "v1.3.0" := by decide +kernel
  have hlater : resolve unsortedCandidates "1.4.0" "0.5.0" = some "1.4.0-beta" := by
    decide +kernel
  have hnothing : resolve unsortedCandidates "0.9.0" "0.5.0" = none := by decide +kernel
  obtain ⟨-, hgreatest, -, hmono⟩ := resolve_greatest unsortedCandidates "1.3.5" "0.5.0"
  obtain ⟨hsame, -⟩ := resolve_greatest unsortedCandidates "0.4.0" "0.5.0"
  obtain ⟨-, -, hnone, -⟩ := resolve_greatest unsortedCandidates "0.9.0" "0.5.0"
  refine ⟨(hgreatest (by decide) "v1.3.0").mp hearlier, hsame (by decide),
    (hnone.mp hnothing).2 _ _ (by decide +kernel) (by decide +kernel), ?_⟩
  exact hmono "1.4.0" ⟨1, 3, 5, [], []⟩ ⟨1, 4, 0, [], []⟩ "v1.3.0" "1.4.0-beta" (by decide +kernel)
    (by decide +kernel) (by decide +kernel) hearlier hlater

end ApiGloss.Version
