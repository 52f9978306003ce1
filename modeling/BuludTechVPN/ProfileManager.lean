import BuludTechVPN.JavaLang
import BuludTechVPN.Runs

/-!
`ProfileManager`: the profiles in memory, those on the phone, and the lookups that load the ones
for the others.

Profiles are objects. A reference to one is its place in the heap, and a profile that is loaded
from a file is a new object. The name of a file stands without its ending `.vp`.
-/

namespace BuludTechVPN.ProfileManager

open JavaLang Runs

/-! ### Profiles and where they are kept -/

/-- An id, with the length of `UUID.toString()`. -/
structure UUID where
  text : Text
  length_eq : text.length = 36
  deriving DecidableEq

structure VpnProfile where
  mUuid : UUID
  mName : Option Text
  mVersion : ℕ

/-- What `readObject` makes of a file. -/
structure SavedProfile where
  mUuid : Option UUID
  mName : Option Text
  mVersion : ℕ

def TEMPORARY_PROFILE_FILENAME : Text := "temporary-vpn-profile".toList

lemma uuid_ne_temporary (u : UUID) : u.text ≠ TEMPORARY_PROFILE_FILENAME := fun h => by
  have := u.length_eq
  rw [h] at this
  exact absurd this (by decide)

/-- The process and the phone. -/
structure Manager where
  /-- `instance != null` -/
  hasInstance : Bool
  profiles : List (Text × ℕ)
  tmpprofile : Option ℕ
  heap : List VpnProfile
  vpnlist : Option (List Text)
  /-- None for a file that does not exist or cannot be read. -/
  files : Text → Option SavedProfile

namespace Manager

variable (s : Manager)

def keys : List Text := s.profiles.map Prod.fst

/-- `getUUID().toString()` -/
def uuidText (r : ℕ) : Option Text := s.heap[r]?.map fun p => p.mUuid.text

/-- `profiles.put` -/
def put (key : Text) (r : ℕ) : Manager :=
  { s with profiles := (key, r) :: s.profiles.filter fun e => e.1 ≠ key }

/-- The profile of a file, if it passes the check for an id and a name. -/
def readProfile (vpnentry : Text) : Option VpnProfile := do
  let vp ← s.files vpnentry
  let mUuid ← vp.mUuid
  if vp.mName.isSome then some ⟨mUuid, vp.mName, vp.mVersion⟩ else none

/-- The body of the loop of `loadVPNList`. -/
def loadEntry (s : Manager) (vpnentry : Text) : Manager :=
  match s.readProfile vpnentry with
  | none => s
  | some vp =>
    let loaded := { s with heap := s.heap ++ [vp] }
    if vpnentry = TEMPORARY_PROFILE_FILENAME then { loaded with tmpprofile := some s.heap.length }
    else loaded.put vp.mUuid.text s.heap.length

/-- The saved list with the temporary profile. -/
def vlist : List Text :=
  let vlist := s.vpnlist.getD []
  if TEMPORARY_PROFILE_FILENAME ∈ vlist then vlist else vlist ++ [TEMPORARY_PROFILE_FILENAME]

def loadVPNList : Manager := s.vlist.foldl loadEntry { s with profiles := [] }

def checkInstance : Manager :=
  if s.hasInstance then s else { s with hasInstance := true }.loadVPNList

/-- `get(String key)` -/
def find (key : Text) : Option ℕ :=
  match s.tmpprofile.filter fun t => s.uuidText t = some key with
  | some t => some t
  | none => (s.profiles.find? fun e => e.1 = key).map Prod.snd

/-- `profile == null || profile.mVersion < version` -/
def isStale (key : Text) (version : ℤ) : Bool :=
  match s.find key with
  | none => true
  | some r => s.heap[r]?.all fun p => p.mVersion < version

/-- The loop of `get`. -/
def lookup (key : Text) (version : ℤ) : ℕ → Manager → Manager × Option ℕ
  | 0, s => (s, s.find key)
  | tries + 1, s =>
    if s.isStale key version then lookup key version tries s.loadVPNList else (s, s.find key)

/-- `get(context, profileUUID, version, tries)` -/
def get (key : Text) (version tries : ℤ) : Manager × Option ℕ :=
  lookup key version tries.toNat s.checkInstance

/-- Does `get(context, profileUUID)` return a profile with that id? Profiles with one id are
equal. -/
def retrieves (key : Text) : Bool :=
  let (t, profile) := s.get key 0 10
  profile.any fun r => t.uuidText r = some key

def addProfile (profile : ℕ) (p : VpnProfile) : Manager := s.checkInstance.put p.mUuid.text profile

def saveProfile (profile : ℕ) (p : VpnProfile) : Manager :=
  let s := s.checkInstance
  let saved := { p with mVersion := p.mVersion + 1 }
  { s with
    heap := s.heap.set profile saved
    files := Function.update s.files p.mUuid.text (some ⟨some p.mUuid, p.mName, p.mVersion + 1⟩) }

def saveProfileList : Manager := { s with vpnlist := some s.keys }

def removeProfile (p : VpnProfile) : Manager :=
  let s := s.checkInstance
  let vpnentry := p.mUuid.text
  let s := { s with profiles := s.profiles.filter fun e => e.1 ≠ vpnentry }.saveProfileList
  { s with files := Function.update s.files vpnentry none }

end Manager

/-! ### Sequences of calls -/

inductive Event
  /-- A new object, with an id of its own or a copied one. -/
  | create (p : VpnProfile)
  | addProfile (profile : ℕ)
  | saveProfile (profile : ℕ)
  | removeProfile (profile : ℕ)
  | get (key : Text) (version tries : ℤ)

/-- The manager, the ids that were added and not removed since, and the ids that lookups of other
ones have removed. -/
structure History where
  manager : Manager
  added : List Text
  removed : List Text

/-- A process that has not used its manager yet. -/
def start (vpnlist : Option (List Text)) (files : Text → Option SavedProfile) : History :=
  ⟨⟨false, [], none, [], vpnlist, files⟩, [], []⟩

def step (h : History) : Event → Option History
  | .create p => some { h with manager.heap := h.manager.heap ++ [p] }
  | .addProfile profile => h.manager.heap[profile]?.map fun p =>
    { h with manager := h.manager.addProfile profile p, added := p.mUuid.text :: h.added }
  | .saveProfile profile => h.manager.heap[profile]?.map fun p =>
    { h with manager := h.manager.saveProfile profile p }
  | .removeProfile profile => h.manager.heap[profile]?.map fun p =>
    { h with manager := h.manager.removeProfile p, added := h.added.filter (· ≠ p.mUuid.text) }
  | .get key version tries =>
    let t := (h.manager.get key version tries).1
    some { h with
      manager := t
      removed := h.removed ++ h.manager.keys.filter fun k => k ≠ key && !t.retrieves k }

/-- What was added is returned, and no lookup has removed another profile. -/
def Retained (h : History) : Prop :=
  (∀ key ∈ h.added, h.manager.retrieves key = true) ∧ h.removed = []

instance (h : History) : Decidable (Retained h) := inferInstanceAs (Decidable (_ ∧ _))

/-! ### What the phone provides -/

namespace Manager

variable {s t : Manager} {key name : Text} {r : ℕ}

/-- The id of the profile in a file. -/
def fileUuid (s : Manager) (name : Text) : Option Text :=
  (s.readProfile name).map fun p => p.mUuid.text

/-- A file of the saved list has a profile with this id. -/
def Listed (s : Manager) (key : Text) : Prop :=
  ∃ name ∈ s.vlist, name ≠ TEMPORARY_PROFILE_FILENAME ∧ s.fileUuid name = some key

/-- The phone has a profile with this id, where loading finds it. -/
def Provided (s : Manager) (key : Text) : Prop :=
  s.Listed key ∨ s.fileUuid TEMPORARY_PROFILE_FILENAME = some key

/-- References lead to profiles with the right ids. -/
structure Sound (s : Manager) : Prop where
  entries : ∀ e ∈ s.profiles, s.uuidText e.2 = some e.1
  tmp : ∀ r, s.tmpprofile = some r → ∃ key, s.uuidText r = some key ∧
    s.fileUuid TEMPORARY_PROFILE_FILENAME = some key

/-- The same phone, and no object is lost. -/
structure Extends (s t : Manager) : Prop where
  hasInstance : t.hasInstance = s.hasInstance
  vpnlist : t.vpnlist = s.vpnlist
  files : t.files = s.files
  heap : ∀ r key, s.uuidText r = some key → t.uuidText r = some key

lemma Extends.refl (s : Manager) : Extends s s := ⟨rfl, rfl, rfl, fun _ _ h => h⟩

lemma Extends.trans {u : Manager} (h : Extends s t) (h' : Extends t u) : Extends s u :=
  ⟨h'.1.trans h.1, h'.2.trans h.2, h'.3.trans h.3, fun r key hr => h'.4 r key (h.4 r key hr)⟩

lemma Extends.fileUuid (h : Extends s t) (name : Text) : t.fileUuid name = s.fileUuid name := by
  unfold Manager.fileUuid readProfile
  rw [h.files]

lemma Extends.vlist (h : Extends s t) : t.vlist = s.vlist := by
  unfold Manager.vlist
  rw [h.vpnlist]

lemma Extends.listed (h : Extends s t) : t.Listed key ↔ s.Listed key := by
  unfold Listed
  rw [h.vlist]
  simp only [h.fileUuid]

lemma uuidText_append {heap : List VpnProfile} {vp : VpnProfile}
    (h : (heap[r]?.map fun p => p.mUuid.text) = some key) :
    ((heap ++ [vp])[r]?.map fun p => p.mUuid.text) = some key := by
  obtain ⟨p, hp, rfl⟩ := Option.map_eq_some_iff.mp h
  have hlt := (List.getElem?_eq_some_iff.mp hp).1
  rw [List.getElem?_append_left hlt, hp, Option.map_some]

lemma mem_put {e : Text × ℕ} : e ∈ (s.put key r).profiles ↔
    e = (key, r) ∨ e ∈ s.profiles ∧ e.1 ≠ key := by
  simp [put]

lemma mem_keys_put {k : Text} : k ∈ (s.put key r).keys ↔ k = key ∨ k ∈ s.keys := by
  unfold keys
  simp only [List.mem_map, mem_put]
  constructor
  · rintro ⟨e, rfl | ⟨he, -⟩, rfl⟩
    · exact .inl rfl
    · exact .inr ⟨e, he, rfl⟩
  · intro h
    by_cases hk : k = key
    · exact ⟨(key, r), .inl rfl, hk.symm⟩
    · obtain ⟨e, he, rfl⟩ := h.resolve_left hk
      exact ⟨e, .inr ⟨he, hk⟩, rfl⟩

/-! ### Loading -/

lemma loadEntry_extends (s : Manager) (name : Text) : Extends s (s.loadEntry name) := by
  unfold loadEntry
  split
  next => exact .refl s
  next vp _ =>
    simp only
    split
    · exact ⟨rfl, rfl, rfl, fun _ _ h => uuidText_append h⟩
    · exact ⟨rfl, rfl, rfl, fun _ _ h => uuidText_append h⟩

lemma loadEntry_sound (h : s.Sound) (name : Text) : (s.loadEntry name).Sound := by
  have hext := loadEntry_extends s name
  have hold : ∀ e ∈ s.profiles, (s.loadEntry name).uuidText e.2 = some e.1 := fun e he =>
    hext.heap _ _ (h.entries e he)
  have htmp : ∀ r, s.tmpprofile = some r → ∃ key, (s.loadEntry name).uuidText r = some key ∧
      (s.loadEntry name).fileUuid TEMPORARY_PROFILE_FILENAME = some key := fun r hr => by
    obtain ⟨key, h1, h2⟩ := h.tmp r hr
    exact ⟨key, hext.heap _ _ h1, (hext.fileUuid _).trans h2⟩
  cases hread : s.readProfile name with
  | none =>
    have heq : s.loadEntry name = s := by
      unfold loadEntry
      rw [hread]
    rw [heq]
    exact h
  | some vp =>
    have hnew : ((s.heap ++ [vp])[s.heap.length]?.map fun p => p.mUuid.text) =
        some vp.mUuid.text := by simp
    by_cases hname : name = TEMPORARY_PROFILE_FILENAME
    · have heq : s.loadEntry name = { s with
          heap := s.heap ++ [vp]
          tmpprofile := some s.heap.length } := by
        unfold loadEntry
        rw [hread]
        exact if_pos hname
      rw [heq] at hold htmp ⊢
      refine ⟨hold, fun r hr => ?_⟩
      obtain rfl := Option.some.inj hr
      refine ⟨vp.mUuid.text, hnew, ?_⟩
      show s.fileUuid TEMPORARY_PROFILE_FILENAME = _
      rw [← hname, Manager.fileUuid, hread, Option.map_some]
    · have heq : s.loadEntry name =
          ({ s with heap := s.heap ++ [vp] } : Manager).put vp.mUuid.text s.heap.length := by
        unfold loadEntry
        rw [hread]
        exact if_neg hname
      rw [heq] at hold htmp ⊢
      refine ⟨fun e he => ?_, htmp⟩
      rcases mem_put.mp he with rfl | ⟨he, -⟩
      · exact hnew
      · exact hold e he

lemma mem_keys_loadEntry (s : Manager) (name k : Text) : k ∈ (s.loadEntry name).keys ↔
    k ∈ s.keys ∨ name ≠ TEMPORARY_PROFILE_FILENAME ∧ s.fileUuid name = some k := by
  unfold loadEntry Manager.fileUuid
  cases s.readProfile name with
  | none => simp
  | some vp =>
    simp only [Option.map_some, Option.some.injEq]
    by_cases hname : name = TEMPORARY_PROFILE_FILENAME
    · rw [if_pos hname]
      simp [hname, keys]
    · rw [if_neg hname, mem_keys_put]
      simp only [ne_eq, hname, not_false_iff, true_and, eq_comm, keys]
      exact or_comm

lemma loadEntry_tmp (s : Manager) (name : Text) : (s.loadEntry name).tmpprofile.isSome =
    (s.tmpprofile.isSome || decide (name = TEMPORARY_PROFILE_FILENAME) &&
      (s.fileUuid name).isSome) := by
  unfold loadEntry Manager.fileUuid
  cases s.readProfile name with
  | none => simp
  | some vp =>
    by_cases hname : name = TEMPORARY_PROFILE_FILENAME
    · simp [hname]
    · simp [hname, put]

/-- Loading some files, one after the other. -/
lemma foldl_loadEntry (l : List Text) (h : s.Sound) :
    Extends s (l.foldl loadEntry s) ∧ (l.foldl loadEntry s).Sound ∧
      (∀ k, k ∈ (l.foldl loadEntry s).keys ↔ k ∈ s.keys ∨
        ∃ name ∈ l, name ≠ TEMPORARY_PROFILE_FILENAME ∧ s.fileUuid name = some k) ∧
      ((l.foldl loadEntry s).tmpprofile.isSome = true ↔ s.tmpprofile.isSome = true ∨
        TEMPORARY_PROFILE_FILENAME ∈ l ∧ (s.fileUuid TEMPORARY_PROFILE_FILENAME).isSome = true) := by
  induction l generalizing s with
  | nil => exact ⟨.refl s, h, by simp, by simp⟩
  | cons n l ih =>
    have hext := loadEntry_extends s n
    obtain ⟨h1, h2, h3, h4⟩ := ih (loadEntry_sound h n)
    refine ⟨hext.trans h1, h2, fun k => ?_, ?_⟩
    · rw [List.foldl_cons, h3, mem_keys_loadEntry]
      simp only [hext.fileUuid, List.mem_cons, exists_eq_or_imp]
      exact or_assoc
    · rw [List.foldl_cons, h4, loadEntry_tmp]
      simp only [hext.fileUuid, List.mem_cons, Bool.or_eq_true, Bool.and_eq_true,
        decide_eq_true_eq]
      constructor
      · rintro ((h | ⟨rfl, h⟩) | h)
        · exact .inl h
        · exact .inr ⟨.inl rfl, h⟩
        · exact .inr ⟨.inr h.1, h.2⟩
      · rintro (h | ⟨rfl | h, h'⟩)
        · exact .inl (.inl h)
        · exact .inl (.inr ⟨rfl, h'⟩)
        · exact .inr ⟨h, h'⟩

/-- A manager that has loaded its profiles: the temporary one is there if the phone has one. -/
structure Ready (s : Manager) : Prop extends s.Sound where
  loaded : (s.fileUuid TEMPORARY_PROFILE_FILENAME).isSome = true → s.tmpprofile.isSome = true

/-- **What loading leaves**: the profiles are those of the saved list. -/
theorem loadVPNList_spec (h : s.Sound) : Extends s s.loadVPNList ∧ s.loadVPNList.Ready ∧
    ∀ k, k ∈ s.loadVPNList.keys ↔ s.Listed k := by
  have hempty : Manager.Sound { s with profiles := [] } := ⟨by simp, h.tmp⟩
  obtain ⟨h1, h2, h3, h4⟩ := foldl_loadEntry s.vlist hempty
  have hmem : TEMPORARY_PROFILE_FILENAME ∈ s.vlist := by
    unfold vlist
    simp only
    split
    · assumption
    · simp
  refine ⟨⟨h1.1, h1.2, h1.3, h1.4⟩, ⟨h2, fun hfile => ?_⟩, fun k => ?_⟩
  · exact h4.mpr (.inr ⟨hmem, (h1.fileUuid _) ▸ hfile⟩)
  · exact (h3 k).trans ⟨fun h => h.resolve_left List.not_mem_nil, .inr⟩

/-! ### Looking up -/

/-- What `get(String)` finds, and when it finds anything. -/
lemma find_spec (h : s.Ready) :
    (∀ r, s.find key = some r → s.uuidText r = some key) ∧
      ((s.find key).isSome = true ↔
        key ∈ s.keys ∨ s.fileUuid TEMPORARY_PROFILE_FILENAME = some key) := by
  unfold find
  split
  next t ht =>
    obtain ⟨hmem, hkey⟩ := Option.filter_eq_some_iff.mp ht
    have hkey : s.uuidText t = some key := by simpa using hkey
    refine ⟨fun r hr => Option.some.inj hr ▸ hkey, iff_of_true rfl (.inr ?_)⟩
    obtain ⟨k, hk, hfile⟩ := h.tmp t hmem
    obtain rfl := Option.some.inj (hk.symm.trans hkey)
    exact hfile
  next ht =>
    refine ⟨fun r hr => ?_, ?_⟩
    · obtain ⟨e, he, rfl⟩ := Option.map_eq_some_iff.mp hr
      have hkey : e.1 = key := by simpa using List.find?_some he
      exact hkey ▸ h.entries e (List.mem_of_find?_eq_some he)
    · have htemp : s.fileUuid TEMPORARY_PROFILE_FILENAME ≠ some key := fun hfile => by
        obtain ⟨t, htmp⟩ := Option.isSome_iff_exists.mp (h.loaded (by rw [hfile]; rfl))
        obtain ⟨k, hk, hfile'⟩ := h.tmp t htmp
        have hkey : k = key := Option.some.inj (hfile'.symm.trans hfile)
        rw [htmp, Option.filter_some, if_pos (by simpa [hkey] using hk)] at ht
        cases ht
      rw [Option.isSome_map, List.find?_isSome]
      simp [keys, htemp]

/-- **The loop of a lookup**: it returns what it finds in the state that it leaves; that is the
first one unless it loads, and then its profiles are those of the saved list. -/
theorem lookup_spec (h : s.Ready) (key : Text) (version : ℤ) (tries : ℕ) :
    ∃ t, lookup key version tries s = (t, t.find key) ∧ t.Ready ∧ Extends s t ∧
      if 0 < tries ∧ s.isStale key version = true then ∀ k, k ∈ t.keys ↔ s.Listed k else t = s := by
  induction tries generalizing s with
  | zero => exact ⟨s, rfl, h, .refl s, by simp⟩
  | succ tries ih =>
    by_cases hstale : s.isStale key version = true
    · obtain ⟨hext, hready, hkeys⟩ := loadVPNList_spec h.toSound
      obtain ⟨t, ht, htr, hte, hif⟩ := ih hready
      refine ⟨t, by rw [lookup, if_pos hstale, ht], htr, hext.trans hte, ?_⟩
      rw [if_pos ⟨Nat.succ_pos _, hstale⟩]
      split at hif
      · exact fun k => (hif k).trans hext.listed
      · exact hif ▸ hkeys
    · refine ⟨s, by rw [lookup, if_neg hstale], h, .refl s, ?_⟩
      rw [if_neg fun hpos => hstale hpos.2]

lemma isStale_zero_of_mem (h : s.Ready)
    (hk : key ∈ s.keys ∨ s.fileUuid TEMPORARY_PROFILE_FILENAME = some key) :
    s.isStale key 0 = false := by
  obtain ⟨hfind, hsome⟩ := find_spec h
  obtain ⟨r, hr⟩ := Option.isSome_iff_exists.mp (hsome.mpr hk)
  obtain ⟨p, hp, -⟩ := Option.map_eq_some_iff.mp (hfind r hr)
  unfold isStale
  rw [hr]
  simp [hp]

/-- **What can be retrieved**: the profiles in memory, and what the phone provides. -/
theorem retrieves_iff (h : s.Ready) (hi : s.hasInstance = true) :
    s.retrieves key = true ↔ key ∈ s.keys ∨ s.Provided key := by
  obtain ⟨t, ht, htr, hte, hif⟩ := lookup_spec h key 0 10
  have hget : s.get key 0 10 = (t, t.find key) := by
    unfold get checkInstance
    rw [if_pos hi]
    exact ht
  have hret : s.retrieves key = true ↔ (t.find key).isSome = true := by
    unfold retrieves
    rw [hget]
    simp only [Option.any_eq_true, decide_eq_true_eq]
    constructor
    · rintro ⟨r, hr, -⟩
      rw [hr]
      rfl
    · intro hsome
      obtain ⟨r, hr⟩ := Option.isSome_iff_exists.mp hsome
      exact ⟨r, hr, (find_spec htr).1 r hr⟩
  rw [hret, (find_spec htr).2, hte.fileUuid]
  by_cases hk : key ∈ s.keys ∨ s.fileUuid TEMPORARY_PROFILE_FILENAME = some key
  · rw [if_neg (by simp [isStale_zero_of_mem h hk])] at hif
    rw [hif]
    unfold Provided
    tauto
  · have hstale : s.isStale key 0 = true := by
      have hnone := Option.not_isSome_iff_eq_none.mp fun hs => hk ((find_spec h).2.mp hs)
      unfold isStale
      rw [hnone]
    rw [if_pos ⟨by decide, hstale⟩] at hif
    rw [hif key]
    unfold Provided
    tauto

end Manager

/-! ### Runs -/

/-- The lookup loads the profiles again while there is one in memory that the phone does not
provide; that profile was added, or it is another one than that looked up. -/
def LosesProfile (h : History) : Event → Prop
  | .get key version tries => 0 < tries ∧ h.manager.isStale key version = true ∧
      ∃ k ∈ h.manager.keys, ¬ h.manager.Provided k ∧ (k ∈ h.added ∨ k ≠ key)
  | _ => False

/-- An added profile is in memory, or is the temporary one. -/
structure Inv (h : History) : Prop where
  sound : h.manager.Sound
  ready : h.manager.hasInstance = true → h.manager.Ready
  fresh : h.manager.hasInstance = false → h.manager.profiles = [] ∧ h.added = []
  added : ∀ k ∈ h.added, k ∈ h.manager.keys ∨
    h.manager.fileUuid TEMPORARY_PROFILE_FILENAME = some k
  removed : h.removed = []

variable {h t : History} {e : Event}

open Manager

lemma Inv.retained (hI : Inv h) : Retained h := by
  refine ⟨fun k hk => ?_, hI.removed⟩
  have hi : h.manager.hasInstance = true := by
    by_contra hno
    rw [(hI.fresh (Bool.eq_false_iff.mpr hno)).2] at hk
    cases hk
  rw [retrieves_iff (hI.ready hi) hi]
  exact (hI.added k hk).imp_right .inr

/-- The manager that a call works with. -/
lemma checkInstance_spec (hI : Inv h) : h.manager.checkInstance.Ready ∧
    h.manager.checkInstance.hasInstance = true ∧
    (∀ r key, h.manager.uuidText r = some key → h.manager.checkInstance.uuidText r = some key) ∧
    h.manager.checkInstance.files = h.manager.files ∧
    h.manager.checkInstance.vpnlist = h.manager.vpnlist ∧
    (h.manager.hasInstance = true → h.manager.checkInstance = h.manager) := by
  unfold checkInstance
  split
  next hi => exact ⟨hI.ready hi, hi, fun _ _ h => h, rfl, rfl, fun _ => rfl⟩
  next hi =>
    have hs : Sound { h.manager with hasInstance := true } := ⟨hI.sound.entries, hI.sound.tmp⟩
    obtain ⟨hext, hready, -⟩ := loadVPNList_spec hs
    exact ⟨hready, hext.hasInstance, hext.heap, hext.files, hext.vpnlist, fun h => absurd h hi⟩

/-- The added profiles are still there once the instance exists. -/
lemma checkInstance_added (hI : Inv h) : ∀ k ∈ h.added, k ∈ h.manager.checkInstance.keys ∨
    h.manager.checkInstance.fileUuid TEMPORARY_PROFILE_FILENAME = some k := by
  intro k hk
  have hi : h.manager.hasInstance = true := by
    by_contra hno
    rw [(hI.fresh (Bool.eq_false_iff.mpr hno)).2] at hk
    cases hk
  rw [(checkInstance_spec hI).2.2.2.2.2 hi]
  exact hI.added k hk

lemma uuidText_of_heap {s : Manager} {r : ℕ} {p : VpnProfile} (hp : s.heap[r]? = some p) :
    s.uuidText r = some p.mUuid.text := by
  rw [uuidText, hp, Option.map_some]

lemma Inv.addProfile (hI : Inv h) {r : ℕ} {p : VpnProfile} (hp : h.manager.heap[r]? = some p) :
    Inv { h with manager := h.manager.addProfile r p, added := p.mUuid.text :: h.added } := by
  obtain ⟨hready, hi, hheap, -⟩ := checkInstance_spec hI
  have hsound : (h.manager.addProfile r p).Sound := by
    refine ⟨fun e he => ?_, hready.tmp⟩
    rcases mem_put.mp he with rfl | ⟨he, -⟩
    · exact hheap _ _ (uuidText_of_heap hp)
    · exact hready.entries e he
  refine ⟨hsound, fun _ => ⟨hsound, hready.loaded⟩, fun hno => ?_, fun k hk => ?_, hI.removed⟩
  · exact absurd (show h.manager.checkInstance.hasInstance = false from hno) (by simp [hi])
  · rcases List.mem_cons.mp hk with rfl | hk
    · exact .inl (mem_keys_put.mpr (.inl rfl))
    · exact (checkInstance_added hI k hk).imp_left fun hk => mem_keys_put.mpr (.inr hk)

/-- Storing a file of a profile leaves the temporary one as it is. -/
lemma fileUuid_update (s : Manager) (u : UUID) (f : Option SavedProfile) :
    fileUuid { s with files := Function.update s.files u.text f } TEMPORARY_PROFILE_FILENAME =
      s.fileUuid TEMPORARY_PROFILE_FILENAME := by
  have hfile : Function.update s.files u.text f TEMPORARY_PROFILE_FILENAME =
      s.files TEMPORARY_PROFILE_FILENAME := Function.update_of_ne (uuid_ne_temporary u).symm f s.files
  unfold Manager.fileUuid readProfile
  simp only [hfile]

lemma Inv.saveProfile (hI : Inv h) {r : ℕ} {p : VpnProfile} (hp : h.manager.heap[r]? = some p) :
    Inv { h with manager := h.manager.saveProfile r p } := by
  obtain ⟨hready, hi, hheap, -⟩ := checkInstance_spec hI
  have htemp := fileUuid_update h.manager.checkInstance p.mUuid
    (some ⟨some p.mUuid, p.mName, p.mVersion + 1⟩)
  have huuid : ∀ q key, h.manager.checkInstance.uuidText q = some key →
      (h.manager.saveProfile r p).uuidText q = some key := fun q key hq => by
    obtain ⟨p', hp', rfl⟩ := Option.map_eq_some_iff.mp hq
    have hlt := (List.getElem?_eq_some_iff.mp hp').1
    show ((h.manager.checkInstance.heap.set r _)[q]?.map fun p => p.mUuid.text) = _
    by_cases hrq : r = q
    · subst hrq
      have hsame := hheap _ _ (uuidText_of_heap hp)
      rw [List.getElem?_set_self hlt]
      exact hsame.symm.trans hq
    · rw [List.getElem?_set_ne hrq]
      exact hq
  have hsound : (h.manager.saveProfile r p).Sound := by
    refine ⟨fun e he => huuid _ _ (hready.entries e he), fun q hq => ?_⟩
    obtain ⟨key, hkey, hfile⟩ := hready.tmp q hq
    exact ⟨key, huuid _ _ hkey, htemp.trans hfile⟩
  refine ⟨hsound, fun _ => ⟨hsound, fun hfile => hready.loaded (htemp ▸ hfile)⟩, fun hno => ?_,
    fun k hk => (checkInstance_added hI k hk).imp_right htemp.trans, hI.removed⟩
  exact absurd (show h.manager.checkInstance.hasInstance = false from hno) (by simp [hi])

lemma Inv.removeProfile (hI : Inv h) (p : VpnProfile) :
    Inv { h with
      manager := h.manager.removeProfile p
      added := h.added.filter (· ≠ p.mUuid.text) } := by
  obtain ⟨hready, hi, -⟩ := checkInstance_spec hI
  have htemp := fileUuid_update h.manager.checkInstance p.mUuid none
  have hsound : (h.manager.removeProfile p).Sound := by
    refine ⟨fun e he => hready.entries e (List.mem_of_mem_filter he), fun q hq => ?_⟩
    obtain ⟨key, hkey, hfile⟩ := hready.tmp q hq
    exact ⟨key, hkey, htemp.trans hfile⟩
  refine ⟨hsound, fun _ => ⟨hsound, fun hfile => hready.loaded (htemp ▸ hfile)⟩, fun hno => ?_,
    fun k hk => ?_, hI.removed⟩
  · exact absurd (show h.manager.checkInstance.hasInstance = false from hno) (by simp [hi])
  · obtain ⟨hk, hne⟩ := List.mem_filter.mp hk
    refine (checkInstance_added hI k hk).imp (fun hk => ?_) htemp.trans
    obtain ⟨e, he, rfl⟩ := List.mem_map.mp hk
    exact List.mem_map_of_mem (List.mem_filter.mpr ⟨he, hne⟩)

/-- A profile in memory, or an added one, means that the instance exists. -/
lemma Inv.hasInstance (hI : Inv h) {k : Text} (hk : k ∈ h.manager.keys ∨ k ∈ h.added) :
    h.manager.hasInstance = true := by
  by_contra hno
  obtain ⟨hprof, hadd⟩ := hI.fresh (Bool.eq_false_iff.mpr hno)
  unfold keys at hk
  rw [hprof, hadd] at hk
  simp at hk

/-- What a lookup leaves of a profile in memory: it is still there, or the lookup has loaded and
the phone does not provide it. -/
lemma get_spec (hI : Inv h) (key : Text) (version tries : ℤ) :
    (h.manager.get key version tries).1.Ready ∧
    (h.manager.get key version tries).1.hasInstance = true ∧
    (∀ k, (h.manager.get key version tries).1.fileUuid k = h.manager.fileUuid k) ∧
    (∀ k, (h.manager.get key version tries).1.Provided k ↔ h.manager.Provided k) ∧
    ∀ k ∈ h.manager.keys, k ∈ (h.manager.get key version tries).1.keys ↔
      (0 < tries ∧ h.manager.isStale key version = true → h.manager.Listed k) := by
  obtain ⟨hready, hi, -, hfiles, hlist, hsame⟩ := checkInstance_spec hI
  have hcheck : ∀ k, h.manager.checkInstance.fileUuid k = h.manager.fileUuid k := fun k => by
    unfold Manager.fileUuid readProfile
    rw [hfiles]
  have hlisted : ∀ k, h.manager.checkInstance.Listed k ↔ h.manager.Listed k := fun k => by
    unfold Listed Manager.vlist
    rw [hlist]
    simp only [hcheck]
  obtain ⟨t, ht, htr, hte, hif⟩ := lookup_spec hready key version tries.toNat
  have hget : (h.manager.get key version tries).1 = t := by
    unfold Manager.get
    rw [ht]
  rw [hget]
  refine ⟨htr, hte.hasInstance.trans hi, fun k => (hte.fileUuid k).trans (hcheck k), fun k => ?_,
    fun k hk => ?_⟩
  · unfold Provided
    rw [hte.listed, hlisted, hte.fileUuid, hcheck]
  · rw [hsame (hI.hasInstance (.inl hk))] at hif
    have hpos : 0 < tries.toNat ↔ 0 < tries := by omega
    simp only [hpos] at hif
    split at hif
    next hload => rw [hif k]; exact ⟨fun h _ => h, fun h => h hload⟩
    next hno => rw [hif]; exact iff_of_true hk fun hload => absurd hload hno

lemma retrieves_get_iff (hI : Inv h) (key : Text) (version tries : ℤ) (k : Text) :
    (h.manager.get key version tries).1.retrieves k = true ↔
      k ∈ (h.manager.get key version tries).1.keys ∨ h.manager.Provided k := by
  obtain ⟨hready, hi, -, hprov, -⟩ := get_spec hI key version tries
  rw [retrieves_iff hready hi, hprov]

lemma Inv.get {key : Text} {version tries : ℤ} (hI : Inv h)
    (hnot : ¬ LosesProfile h (.get key version tries)) (ht : step h (.get key version tries) = some t) :
    Inv t := by
  obtain ⟨hready, hi, hfile, hprov, hkeys⟩ := get_spec hI key version tries
  -- what is lost is not provided, and then the lookup is one of those excluded
  have hstays : ∀ k ∈ h.manager.keys, k ∈ h.added ∨ k ≠ key →
      k ∈ (h.manager.get key version tries).1.keys ∨ h.manager.Provided k := by
    intro k hk hor
    by_cases hp : h.manager.Provided k
    · exact .inr hp
    · refine .inl ((hkeys k hk).mpr fun hload => ?_)
      exact absurd ⟨hload.1, hload.2, k, hk, hp, hor⟩ hnot
  obtain rfl := Option.some.inj ht
  refine ⟨hready.toSound, fun _ => hready, fun hno => ?_, fun k hk => ?_, ?_⟩
  · exact absurd hno (by simp [hi])
  · show _ ∨ (h.manager.get key version tries).1.fileUuid _ = some k
    rw [hfile]
    rcases hI.added k hk with hmem | htemp
    · rcases hstays k hmem (.inl hk) with h1 | (h1 | h1)
      · exact .inl h1
      · exact .inl ((hkeys k hmem).mpr fun _ => h1)
      · exact .inr h1
    · exact .inr htemp
  · show h.removed ++ _ = []
    rw [hI.removed, List.nil_append, List.filter_eq_nil_iff]
    intro k hk hlost
    simp only [Bool.and_eq_true, decide_eq_true_eq, Bool.not_eq_true'] at hlost
    have hret := (retrieves_get_iff hI key version tries k).mpr (hstays k hk (.inr hlost.1))
    rw [hret] at hlost
    exact Bool.false_ne_true hlost.2.symm

lemma not_retained_of_loses (hI : Inv h) (hb : LosesProfile h e) (ht : step h e = some t) :
    ¬ Retained t := by
  cases e with
  | get key version tries =>
    obtain ⟨hpos, hstale, k, hk, hp, hor⟩ := hb
    obtain ⟨-, -, -, -, hkeys⟩ := get_spec hI key version tries
    obtain rfl := Option.some.inj ht
    have hlost : (h.manager.get key version tries).1.retrieves k ≠ true := by
      rw [ne_eq, retrieves_get_iff hI, hkeys k hk]
      rintro (h1 | h1)
      · exact hp (.inl (h1 ⟨hpos, hstale⟩))
      · exact hp h1
    rintro ⟨hadd, hrem⟩
    rcases hor with hor | hor
    · exact hlost (hadd k hor)
    · have hmem : k ∈ h.removed ++ h.manager.keys.filter fun k =>
          k ≠ key && !(h.manager.get key version tries).1.retrieves k := by
        refine List.mem_append_right _ (List.mem_filter.mpr ⟨hk, ?_⟩)
        simpa [hor] using hlost
      rw [show h.removed ++ _ = [] from hrem] at hmem
      cases hmem
  | _ => cases hb

/-- **One call** that loses no profile keeps the invariant. -/
theorem inv_step (hI : Inv h) (hnot : ¬ LosesProfile h e) (ht : step h e = some t) : Inv t := by
  cases e with
  | create p =>
    obtain rfl := Option.some.inj ht
    have hheap : ∀ r key, h.manager.uuidText r = some key →
        uuidText { h.manager with heap := h.manager.heap ++ [p] } r = some key :=
      fun _ _ h => uuidText_append h
    have hsound : Sound { h.manager with heap := h.manager.heap ++ [p] } := by
      refine ⟨fun e he => hheap _ _ (hI.sound.entries e he), fun r hr => ?_⟩
      obtain ⟨key, h1, h2⟩ := hI.sound.tmp r hr
      exact ⟨key, hheap _ _ h1, h2⟩
    exact ⟨hsound, fun hi => ⟨hsound, (hI.ready hi).loaded⟩, hI.fresh, hI.added, hI.removed⟩
  | addProfile r =>
    obtain ⟨p, hp, rfl⟩ := Option.map_eq_some_iff.mp ht
    exact hI.addProfile hp
  | saveProfile r =>
    obtain ⟨p, hp, rfl⟩ := Option.map_eq_some_iff.mp ht
    exact hI.saveProfile hp
  | removeProfile r =>
    obtain ⟨p, hp, rfl⟩ := Option.map_eq_some_iff.mp ht
    exact hI.removeProfile p
  | get key version tries => exact hI.get hnot ht

lemma inv_start (vpnlist : Option (List Text)) (files : Text → Option SavedProfile) :
    Inv (start vpnlist files) :=
  ⟨⟨by simp [start], by simp [start]⟩, fun h => absurd h (by simp [start]), fun _ => ⟨rfl, rfl⟩,
    by simp [start], rfl⟩

/-- A profile as the converter makes one. -/
def converted : VpnProfile := ⟨⟨List.replicate 36 '0', by decide⟩, some ['v', 'p', 'n'], 0⟩

end BuludTechVPN.ProfileManager
