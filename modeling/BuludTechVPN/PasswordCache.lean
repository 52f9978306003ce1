import BuludTechVPN.VpnProfile

/-!
`PasswordCache`: the passwords that the user has entered for the profile that is started next, until
the management thread hands them to OpenVPN.

There is one cache, for the profile that was asked for last. Asking for another profile empties it.
-/

namespace BuludTechVPN.Passwords

open JavaLang

structure PasswordCache where
  mUuid : Text
  mKeyOrPkcs12Password : Option Text
  mAuthPassword : Option Text
  deriving DecidableEq, Repr

def pcks12OrCertPassword : ℤ := 2
def authPassword : ℤ := 3

variable (mInstance : Option PasswordCache)

def getInstance (uuid : Text) : PasswordCache :=
  (mInstance.filter fun cache => cache.mUuid = uuid).getD ⟨uuid, none, none⟩

/-- The password, and the cache that is left. -/
def getPKCS12orCertificatePassword (uuid : Text) (resetPw : Bool) : Option Text × PasswordCache :=
  let cache := getInstance mInstance uuid
  (cache.mKeyOrPkcs12Password,
    if resetPw then { cache with mKeyOrPkcs12Password := none } else cache)

def getAuthPassword (uuid : Text) (resetPW : Bool) : Option Text × PasswordCache :=
  let cache := getInstance mInstance uuid
  (cache.mAuthPassword, if resetPW then { cache with mAuthPassword := none } else cache)

def setCachedPassword (uuid : Text) (type : ℤ) (password : Option Text) : PasswordCache :=
  let cache := getInstance mInstance uuid
  if type = pcks12OrCertPassword then { cache with mKeyOrPkcs12Password := password }
  else if type = authPassword then { cache with mAuthPassword := password }
  else cache

/-! ### The passwords of a profile -/

/-- What the management thread asks of a profile. -/
structure VpnProfile where
  mUuid : Text
  mAuthenticationType : AuthenticationType
  mUsername : Option Text
  mPassword : Option Text
  mPKCS12Password : Option Text
  mKeyPassword : Option Text
  deriving DecidableEq, Repr

namespace VpnProfile

/-- The password of the key that is stored in the profile. -/
def storedKeyPassword (p : VpnProfile) : Option Text :=
  match p.mAuthenticationType with
  | .pkcs12 | .userpassPkcs12 => p.mPKCS12Password
  | .certificates | .userpassCertificates => p.mKeyPassword
  | .userpass | .statickeys | .keystore | .userpassKeystore => none

/-- A cached password goes before the stored one. -/
def getPasswordPrivateKey (p : VpnProfile) : Option Text × PasswordCache :=
  let got := getPKCS12orCertificatePassword mInstance p.mUuid true
  (got.1.or p.storedKeyPassword, got.2)

def getPasswordAuth (p : VpnProfile) : Option Text × PasswordCache :=
  let got := getAuthPassword mInstance p.mUuid true
  (got.1.or p.mPassword, got.2)

end VpnProfile

/-! ### Runs -/

/-- A password of a profile, with its type. -/
structure Entry where
  uuid : Text
  type : ℤ
  password : Text
  deriving DecidableEq, Repr

inductive Event
  | set (uuid : Text) (type : ℤ) (password : Option Text)
  | getKey (uuid : Text) (resetPw : Bool)
  | getAuth (uuid : Text) (resetPW : Bool)

/-- The cache, with the passwords that were set, and those that were handed out for good. -/
structure History where
  mInstance : Option PasswordCache
  set : List Entry
  handed : List Entry

def entries (uuid : Text) (type : ℤ) (password : Option Text) : List Entry :=
  (password.map fun password => ⟨uuid, type, password⟩).toList

def History.next (h : History) : Event → History
  | .set uuid type password => { h with
      mInstance := some (setCachedPassword h.mInstance uuid type password)
      set := h.set ++ entries uuid type password }
  | .getKey uuid resetPw =>
    let got := getPKCS12orCertificatePassword h.mInstance uuid resetPw
    { h with
      mInstance := some got.2
      handed := h.handed ++ if resetPw then entries uuid pcks12OrCertPassword got.1 else [] }
  | .getAuth uuid resetPW =>
    let got := getAuthPassword h.mInstance uuid resetPW
    { h with
      mInstance := some got.2
      handed := h.handed ++ if resetPW then entries uuid authPassword got.1 else [] }

/-- The password of a type that is cached. -/
def PasswordCache.cached (type : ℤ) (c : PasswordCache) : List Entry :=
  if type = pcks12OrCertPassword then entries c.mUuid type c.mKeyOrPkcs12Password
  else if type = authPassword then entries c.mUuid type c.mAuthPassword
  else []

def slot (type : ℤ) (mInstance : Option PasswordCache) : List Entry :=
  (mInstance.map (·.cached type)).getD []

/-- The passwords of a type that were handed out and the one that is cached were set, one after
another. -/
def Fresh (type : ℤ) (h : History) : Prop :=
  (h.handed.filter (·.type = type) ++ slot type h.mInstance).Sublist (h.set.filter (·.type = type))

variable {mInstance} {uuid : Text} {type : ℤ} {password : Option Text} {h : History}

@[simp] lemma getInstance_mUuid : (getInstance mInstance uuid).mUuid = uuid := by
  unfold getInstance
  cases hi : mInstance.filter fun cache => cache.mUuid = uuid with
  | none => rfl
  | some cache => exact of_decide_eq_true (Option.filter_eq_some_iff.1 hi).2

/-- Asking for a profile adds no password. -/
lemma cached_getInstance (uuid : Text) :
    ((getInstance mInstance uuid).cached type).Sublist (slot type mInstance) := by
  unfold getInstance
  cases hi : mInstance.filter fun cache => cache.mUuid = uuid with
  | none =>
    have hnil : (PasswordCache.mk uuid none none).cached type = [] := by
      unfold PasswordCache.cached
      split_ifs
      · rfl
      · rfl
      · rfl
    rw [Option.getD_none, hnil]
    exact List.nil_sublist _
  | some cache =>
    obtain ⟨rfl, -⟩ := Option.filter_eq_some_iff.1 hi
    exact .refl _

lemma filter_entries {type' : ℤ} : (entries uuid type password).filter (·.type = type') =
    if type = type' then entries uuid type password else [] := by
  cases password with
  | none =>
    split_ifs
    · rfl
    · rfl
  | some password =>
    split_ifs with ht
    · exact List.filter_eq_self.mpr fun e he => by
        obtain rfl := List.mem_singleton.mp he
        exact decide_eq_true ht
    · exact List.filter_eq_nil_iff.mpr fun e he => by
        obtain rfl := List.mem_singleton.mp he
        simpa using ht

/-- Setting a password replaces the one of its type, and no other. -/
lemma cached_setCachedPassword {type' : ℤ} :
    (setCachedPassword mInstance uuid type' password).cached type =
      if type = type' ∧ (type = pcks12OrCertPassword ∨ type = authPassword) then
        entries uuid type password
      else (getInstance mInstance uuid).cached type := by
  have hne : authPassword ≠ pcks12OrCertPassword := by decide
  unfold setCachedPassword PasswordCache.cached
  by_cases hk : type' = pcks12OrCertPassword
  · subst hk
    by_cases ht : type = pcks12OrCertPassword
    · simp [ht]
    · simp [ht]
  · by_cases ha : type' = authPassword
    · subst ha
      by_cases ht : type = authPassword
      · simp [ht, hne]
      · simp [ht, hne]
    · by_cases ht : type = type'
      · simp [ht, hk, ha]
      · simp [ht, hk, ha]

/-- A password that is taken out of the cache is no longer in it. -/
lemma cached_getPKCS12 {resetPw : Bool} :
    (if resetPw then entries uuid pcks12OrCertPassword
        (getPKCS12orCertificatePassword mInstance uuid resetPw).1 else []).filter (·.type = type) ++
      (getPKCS12orCertificatePassword mInstance uuid resetPw).2.cached type =
    (getInstance mInstance uuid).cached type := by
  cases resetPw with
  | false => rfl
  | true =>
    simp only [getPKCS12orCertificatePassword, if_true, filter_entries, PasswordCache.cached,
      getInstance_mUuid]
    by_cases ht : type = pcks12OrCertPassword
    · simp [ht, entries]
    · simp [ht, Ne.symm ht]

lemma cached_getAuth {resetPW : Bool} :
    (if resetPW then entries uuid authPassword
        (getAuthPassword mInstance uuid resetPW).1 else []).filter (·.type = type) ++
      (getAuthPassword mInstance uuid resetPW).2.cached type =
    (getInstance mInstance uuid).cached type := by
  cases resetPW with
  | false => rfl
  | true =>
    have hne : authPassword ≠ pcks12OrCertPassword := by decide
    simp only [getAuthPassword, if_true, filter_entries, PasswordCache.cached, getInstance_mUuid]
    by_cases ht : type = authPassword
    · simp [ht, entries, hne]
    · simp [ht, Ne.symm ht]

/-- A password that is asked for was cached, if it is not stored, and is no longer cached then. -/
lemma cached_getPasswordPrivateKey (p : VpnProfile) :
    (p.getPasswordPrivateKey mInstance).2.cached type ⊆ slot type mInstance := by
  have hcached := (cached_getPKCS12 : (if true then entries p.mUuid pcks12OrCertPassword
    (getPKCS12orCertificatePassword mInstance p.mUuid true).1 else []).filter (·.type = type) ++ _ = _)
  exact fun e he => (cached_getInstance p.mUuid).subset (hcached ▸ List.mem_append_right _ he)

lemma cached_getPasswordAuth (p : VpnProfile) :
    (p.getPasswordAuth mInstance).2.cached type ⊆ slot type mInstance := by
  have hcached := (cached_getAuth : (if true then entries p.mUuid authPassword
    (getAuthPassword mInstance p.mUuid true).1 else []).filter (·.type = type) ++ _ = _)
  exact fun e he => (cached_getInstance p.mUuid).subset (hcached ▸ List.mem_append_right _ he)

lemma getPasswordPrivateKey_eq_some {p : VpnProfile} {pw : Text}
    (h : (p.getPasswordPrivateKey mInstance).1 = some pw) : p.storedKeyPassword = some pw ∨
      ⟨p.mUuid, pcks12OrCertPassword, pw⟩ ∈ slot pcks12OrCertPassword mInstance := by
  unfold VpnProfile.getPasswordPrivateKey getPKCS12orCertificatePassword at h
  simp only [Option.or_eq_some_iff] at h
  rcases h with h | ⟨-, h⟩
  · refine .inr ((cached_getInstance p.mUuid).subset ?_)
    unfold PasswordCache.cached
    rw [if_pos rfl, getInstance_mUuid, h]
    exact List.mem_singleton_self _
  · exact .inl h

lemma getPasswordAuth_eq_some {p : VpnProfile} {pw : Text}
    (h : (p.getPasswordAuth mInstance).1 = some pw) : p.mPassword = some pw ∨
      ⟨p.mUuid, authPassword, pw⟩ ∈ slot authPassword mInstance := by
  have hne : authPassword ≠ pcks12OrCertPassword := by decide
  unfold VpnProfile.getPasswordAuth getAuthPassword at h
  simp only [Option.or_eq_some_iff] at h
  rcases h with h | ⟨-, h⟩
  · refine .inr ((cached_getInstance p.mUuid).subset ?_)
    unfold PasswordCache.cached
    rw [if_neg hne, if_pos rfl, getInstance_mUuid, h]
    exact List.mem_singleton_self _
  · exact .inl h

/-- **A step keeps the order**: what is handed out is what was cached, and what is cached is what
was set last. -/
lemma Fresh.next (hf : Fresh type h) (e : Event) : Fresh type (h.next e) := by
  have hkeep (uuid : Text) : (h.handed.filter (·.type = type) ++
      (getInstance h.mInstance uuid).cached type).Sublist (h.set.filter (·.type = type)) :=
    ((List.Sublist.refl _).append (cached_getInstance uuid)).trans hf
  cases e with
  | set uuid type' password =>
    change (h.handed.filter (·.type = type) ++
      (setCachedPassword h.mInstance uuid type' password).cached type).Sublist
        ((h.set ++ entries uuid type' password).filter (·.type = type))
    rw [List.filter_append, filter_entries, cached_setCachedPassword]
    by_cases ht : type = type' ∧ (type = pcks12OrCertPassword ∨ type = authPassword)
    · rw [if_pos ht, if_pos ht.1.symm, ht.1]
      exact ((List.sublist_append_left _ _).trans (ht.1 ▸ hkeep uuid)).append (.refl _)
    · rw [if_neg ht]
      exact (hkeep uuid).trans (List.sublist_append_left _ _)
  | getKey uuid resetPw =>
    change ((h.handed ++ _).filter (·.type = type) ++ (getPKCS12orCertificatePassword
      h.mInstance uuid resetPw).2.cached type).Sublist (h.set.filter (·.type = type))
    rw [List.filter_append, List.append_assoc, cached_getPKCS12]
    exact hkeep uuid
  | getAuth uuid resetPW =>
    change ((h.handed ++ _).filter (·.type = type) ++ (getAuthPassword
      h.mInstance uuid resetPW).2.cached type).Sublist (h.set.filter (·.type = type))
    rw [List.filter_append, List.append_assoc, cached_getAuth]
    exact hkeep uuid

lemma Fresh.run (hf : Fresh type h) (es : List Event) : Fresh type (es.foldl History.next h) := by
  induction es generalizing h with
  | nil => exact hf
  | cons e es ih => exact ih (hf.next e)

/-- **A password is handed out once.** Whatever passwords are set and asked for, in any order and
for any profiles, the passwords of a type that the management thread takes out of the cache are
passwords that were set for the profiles it asked for, each taken at most as often as it was set,
and in the order they were set. -/
theorem handed_sublist (es : List Event) (type : ℤ) :
    ((es.foldl History.next ⟨none, [], []⟩).handed.filter (·.type = type)).Sublist
      ((es.foldl History.next ⟨none, [], []⟩).set.filter (·.type = type)) := by
  have hfresh : Fresh type ⟨none, [], []⟩ := List.nil_sublist _
  exact (List.sublist_append_left _ _).trans (hfresh.run es)

end BuludTechVPN.Passwords
