import BuludTechVPN.JavaLang
import Mathlib.Data.Finset.Basic

/-!
Which packages the tunnel is for: `LaunchVPN.loadSettingsForStartingVPN` and
`OpenVPNService.setAllowedVpnPackages`.

The packages are in a `HashSet`, which is visited in an order that is left open. Its iterator is
fail-fast: after a removal the visit of a further package throws.
-/

namespace BuludTechVPN.AllowedApps

open JavaLang

/-- An order in which the elements of a set are visited. -/
structure SetOrder (α : Type*) [DecidableEq α] where
  visit : Finset α → List α
  nodup : ∀ s, (visit s).Nodup
  mem_visit : ∀ s a, a ∈ visit s ↔ a ∈ s

/-- `getPackageName()`. -/
def packageName : Text := "tk.usagis2.BuludTechVPN".toList

/-- `getString(R.string.package_name)`. -/
def packageNameString : Text := "tk.usagis2.ez_vpngate".toList

/-- The installed packages. The app itself is one of them. -/
structure Installed where
  packages : Finset Text
  self : packageName ∈ packages

structure Prefs where
  enableAll : Bool
  tickedApps : Text
  excludeThisApp : Bool

/-- The two fields of the profile. -/
structure AppSettings where
  mAllowedAppsVpnAreDisallowed : Bool
  mAllowedAppsVpn : Finset Text
  deriving DecidableEq

/-! ### Settings -/

/-- `Utils.getPackageNamesFromString`. -/
def getPackageNamesFromString (tickedAppStr : Text) : Finset Text :=
  (splitAt (· = ',') tickedAppStr).toFinset.erase []

def Prefs.ticked (prefs : Prefs) : Finset Text := getPackageNamesFromString prefs.tickedApps

/-- The ticked packages, with or without the one that is taken for this app. -/
def selectedApps (prefs : Prefs) : Finset Text :=
  if prefs.excludeThisApp then
    if prefs.enableAll then insert packageNameString prefs.ticked
    else prefs.ticked.erase packageNameString
  else prefs.ticked

def loadSettingsForStartingVPN (prefs : Prefs) : AppSettings :=
  if !prefs.enableAll ∧ selectedApps prefs = ∅ then
    { mAllowedAppsVpnAreDisallowed := true
      mAllowedAppsVpn :=
        if prefs.excludeThisApp then insert packageNameString (selectedApps prefs)
        else selectedApps prefs }
  else
    { mAllowedAppsVpnAreDisallowed := prefs.enableAll, mAllowedAppsVpn := selectedApps prefs }

/-! ### The builder -/

/-- `VpnService.Builder`. -/
structure Builder where
  disallowed : Finset Text := ∅
  allowed : Finset Text := ∅
  deriving DecidableEq

/-- The packages whose traffic is tunnelled: the allowed ones if there are any, or all but the
disallowed ones. -/
def Builder.tunnelled (b : Builder) (installed : Installed) : Finset Text :=
  if b.allowed = ∅ then installed.packages \ b.disallowed else installed.packages ∩ b.allowed

/-- The variables of the loop over `mAllowedAppsVpn`. -/
structure Visit where
  builder : Builder
  mAllowedAppsVpn : Finset Text
  atLeastOneAllowedApp : Bool
  deriving DecidableEq

/-- A package that is installed is added to the builder. -/
def Visit.add (v : Visit) (areDisallowed : Bool) (pkg : Text) : Visit :=
  if areDisallowed then
    { v with builder := { v.builder with disallowed := insert pkg v.builder.disallowed } }
  else
    { v with
      builder := { v.builder with allowed := insert pkg v.builder.allowed }
      atLeastOneAllowedApp := true }

/-- The loop over `mAllowedAppsVpn`. A package that is not installed is removed from the set, and
then the iterator throws if there is a package left to visit. -/
def visitPackages (installed : Installed) (areDisallowed : Bool) :
    List Text → Visit → Call Visit
  | [], v => .ok v
  | pkg :: rest, v =>
    if pkg ∈ installed.packages then
      visitPackages installed areDisallowed rest (v.add areDisallowed pkg)
    else if rest = [] then .ok { v with mAllowedAppsVpn := v.mAllowedAppsVpn.erase pkg }
    else .error .concurrentModification

/-- Where nothing was allowed, this app is. -/
def allowThisApp (areDisallowed : Bool) (v : Visit) : Builder :=
  if !areDisallowed && !v.atLeastOneAllowedApp then
    { v.builder with allowed := insert packageName v.builder.allowed }
  else v.builder

def setAllowedVpnPackages (order : SetOrder Text) (installed : Installed) (s : AppSettings) :
    Call Builder :=
  allowThisApp s.mAllowedAppsVpnAreDisallowed <$>
    visitPackages installed s.mAllowedAppsVpnAreDisallowed (order.visit s.mAllowedAppsVpn)
      ⟨{}, s.mAllowedAppsVpn, false⟩

/-- The start of a connection, as far as it is about packages. -/
def startVPN (order : SetOrder Text) (installed : Installed) (prefs : Prefs) : Call Builder :=
  setAllowedVpnPackages order installed (loadSettingsForStartingVPN prefs)

/-! ### What the loop does -/

/-- All packages but the one visited last are installed. -/
def AllButLastInstalled (installed : Installed) (pkgs : List Text) : Prop :=
  ∀ pkg ∈ pkgs.dropLast, pkg ∈ installed.packages

variable {installed : Installed} {areDisallowed : Bool} {pkg : Text} {rest pkgs : List Text}
  {v : Visit} {order : SetOrder Text}

lemma allButLastInstalled_cons :
    AllButLastInstalled installed (pkg :: rest) ↔
      rest = [] ∨ pkg ∈ installed.packages ∧ AllButLastInstalled installed rest := by
  cases rest with
  | nil => simp [AllButLastInstalled]
  | cons q rest => simp [AllButLastInstalled]

/-- **The loop throws** if a package that is not installed is followed by another one. -/
lemma visitPackages_error (h : ¬ AllButLastInstalled installed pkgs) :
    visitPackages installed areDisallowed pkgs v = .error .concurrentModification := by
  induction pkgs generalizing v with
  | nil => exact absurd (by simp [AllButLastInstalled]) h
  | cons pkg rest ih =>
    rw [allButLastInstalled_cons, not_or] at h
    rw [visitPackages]
    split_ifs with hi hr
    · exact ih fun hrest => h.2 ⟨hi, hrest⟩
    · exact absurd hr h.1
    · rfl

lemma visitPackages_disallow (h : AllButLastInstalled installed pkgs) :
    ∃ r, visitPackages installed true pkgs v = .ok r ∧ r.builder.allowed = v.builder.allowed ∧
      ∀ x, x ∈ r.builder.disallowed ↔
        x ∈ v.builder.disallowed ∨ x ∈ pkgs ∧ x ∈ installed.packages := by
  induction pkgs generalizing v with
  | nil => exact ⟨v, rfl, rfl, by simp⟩
  | cons pkg rest ih =>
    rw [allButLastInstalled_cons] at h
    rw [visitPackages]
    split_ifs with hi hr
    · have hrest : AllButLastInstalled installed rest := by
        obtain rfl | h := h
        · simp [AllButLastInstalled]
        · exact h.2
      obtain ⟨r, hr, ha, hd⟩ := ih hrest
      refine ⟨r, hr, ha, fun x => ?_⟩
      rw [hd]
      simp only [Visit.add, if_true, Finset.mem_insert, List.mem_cons]
      grind
    · subst hr
      refine ⟨_, rfl, rfl, fun x => ?_⟩
      simp only [List.mem_singleton]
      grind
    · exact absurd (h.resolve_left hr).1 hi

lemma visitPackages_allow (h : AllButLastInstalled installed pkgs) :
    ∃ r, visitPackages installed false pkgs v = .ok r ∧
      r.builder.disallowed = v.builder.disallowed ∧
      (∀ x, x ∈ r.builder.allowed ↔
        x ∈ v.builder.allowed ∨ x ∈ pkgs ∧ x ∈ installed.packages) ∧
      (r.atLeastOneAllowedApp = true ↔
        v.atLeastOneAllowedApp = true ∨ ∃ x ∈ pkgs, x ∈ installed.packages) := by
  induction pkgs generalizing v with
  | nil => exact ⟨v, rfl, rfl, by simp, by simp⟩
  | cons pkg rest ih =>
    rw [allButLastInstalled_cons] at h
    rw [visitPackages]
    split_ifs with hi hr
    · have hrest : AllButLastInstalled installed rest := by
        obtain rfl | h := h
        · simp [AllButLastInstalled]
        · exact h.2
      obtain ⟨r, hr, hd, ha, hone⟩ := ih hrest
      refine ⟨r, hr, hd, fun x => ?_, ?_⟩
      · rw [ha]
        simp only [Visit.add, Bool.false_eq_true, if_false, Finset.mem_insert, List.mem_cons]
        grind
      · rw [hone]
        simp [Visit.add, hi]
    · subst hr
      refine ⟨_, rfl, rfl, fun x => ?_, ?_⟩
      · simp only [List.mem_singleton]
        grind
      · simp [hi]
    · exact absurd (h.resolve_left hr).1 hi

/-! ### What is tunnelled -/

variable {s : AppSettings}

/-- The loop over the set of the profile does not throw. -/
def Quiet (order : SetOrder Text) (installed : Installed) (pkgs : Finset Text) : Prop :=
  AllButLastInstalled installed (order.visit pkgs)

lemma setAllowedVpnPackages_error (h : ¬ Quiet order installed s.mAllowedAppsVpn) :
    setAllowedVpnPackages order installed s = .error .concurrentModification := by
  rw [setAllowedVpnPackages, visitPackages_error h]
  rfl

/-- **The deny list**: everything is tunnelled but the packages of the set. -/
lemma setAllowedVpnPackages_disallow (hs : s.mAllowedAppsVpnAreDisallowed = true)
    (h : Quiet order installed s.mAllowedAppsVpn) :
    ∃ b, setAllowedVpnPackages order installed s = .ok b ∧
      ∀ x, x ∈ b.tunnelled installed ↔ x ∈ installed.packages ∧ x ∉ s.mAllowedAppsVpn := by
  obtain ⟨r, hr, ha, hd⟩ := visitPackages_disallow h
  refine ⟨r.builder, ?_, fun x => ?_⟩
  · rw [setAllowedVpnPackages, hs, hr]
    rfl
  · rw [Builder.tunnelled, if_pos ha, Finset.mem_sdiff, hd, order.mem_visit]
    simp only [Finset.notMem_empty, false_or]
    tauto

/-- **The allow list**: the installed packages of the set are tunnelled, or this app if there
are none. -/
lemma setAllowedVpnPackages_allow (hs : s.mAllowedAppsVpnAreDisallowed = false)
    (h : Quiet order installed s.mAllowedAppsVpn) :
    ∃ b, setAllowedVpnPackages order installed s = .ok b ∧
      ∀ x, x ∈ b.tunnelled installed ↔
        x ∈ s.mAllowedAppsVpn ∧ x ∈ installed.packages ∨
          (∀ y ∈ s.mAllowedAppsVpn, y ∉ installed.packages) ∧ x = packageName := by
  obtain ⟨r, hr, -, hallowed, hflag⟩ :=
    visitPackages_allow h (v := ⟨{}, s.mAllowedAppsVpn, false⟩)
  have ha : ∀ x, x ∈ r.builder.allowed ↔ x ∈ s.mAllowedAppsVpn ∧ x ∈ installed.packages :=
    fun x => (hallowed x).trans (by simp [order.mem_visit])
  have hone : r.atLeastOneAllowedApp = true ↔ ∃ x ∈ s.mAllowedAppsVpn, x ∈ installed.packages :=
    hflag.trans (by simp [order.mem_visit])
  refine ⟨allowThisApp false r, ?_, fun x => ?_⟩
  · rw [setAllowedVpnPackages, hs, hr]
    rfl
  · by_cases hex : ∃ y ∈ s.mAllowedAppsVpn, y ∈ installed.packages
    · have hne : r.builder.allowed ≠ ∅ := by
        obtain ⟨y, hy⟩ := hex
        exact Finset.ne_empty_of_mem ((ha y).2 hy)
      have hnone : ¬ ∀ y ∈ s.mAllowedAppsVpn, y ∉ installed.packages := by
        simpa using hex
      rw [allowThisApp, hone.2 hex]
      simp only [Bool.not_true, Bool.and_false, Bool.false_eq_true, if_false, Builder.tunnelled,
        hne, Finset.mem_inter, ha, hnone, false_and, or_false]
      tauto
    · have hfalse : r.atLeastOneAllowedApp = false := by
        rw [← Bool.not_eq_true, hone]
        exact hex
      have hempty : r.builder.allowed = ∅ :=
        Finset.eq_empty_of_forall_notMem fun y hy => hex ⟨y, (ha y).1 hy⟩
      have hnone : ∀ y ∈ s.mAllowedAppsVpn, y ∉ installed.packages := by
        simpa using hex
      rw [allowThisApp, hfalse]
      simp only [Bool.not_false, Bool.and_self, if_true, Builder.tunnelled, hempty,
        Finset.insert_ne_empty, if_false, Finset.mem_inter, Finset.mem_insert,
        Finset.notMem_empty, or_false]
      constructor
      · rintro ⟨-, rfl⟩
        exact .inr ⟨hnone, rfl⟩
      · rintro (⟨h1, h2⟩ | ⟨-, rfl⟩)
        · exact absurd h2 (hnone x h1)
        · exact ⟨installed.self, rfl⟩

/-! ### The settings of the user -/

/-- The user does not want the package tunnelled, since it is this app. -/
def Excluded (prefs : Prefs) (x : Text) : Prop := prefs.excludeThisApp = true ∧ x = packageName

/-- The connection starts, and tunnels what the settings say. -/
def ObeysSettings (prefs : Prefs) (installed : Installed) (r : Call Builder) : Prop :=
  ∃ b, r = .ok b ∧
    (prefs.excludeThisApp = true → packageName ∉ b.tunnelled installed) ∧
    (prefs.enableAll = true → ∀ x ∈ prefs.ticked, x ∉ b.tunnelled installed) ∧
    (prefs.enableAll = false →
      (∃ x ∈ prefs.ticked, x ∈ installed.packages ∧ ¬ Excluded prefs x) →
      ∀ x, x ∈ b.tunnelled installed ↔
        x ∈ prefs.ticked ∧ x ∈ installed.packages ∧ ¬ Excluded prefs x)

lemma packageNameString_ne : packageName ≠ packageNameString := by decide

lemma not_obeysSettings_error {prefs : Prefs} {e : Abrupt} :
    ¬ ObeysSettings prefs installed (.error e) := by
  rintro ⟨b, h, -⟩
  cases h

lemma obeysSettings_ok {prefs : Prefs} {b : Builder} :
    ObeysSettings prefs installed (.ok b) ↔
      (prefs.excludeThisApp = true → packageName ∉ b.tunnelled installed) ∧
      (prefs.enableAll = true → ∀ x ∈ prefs.ticked, x ∉ b.tunnelled installed) ∧
      (prefs.enableAll = false →
        (∃ x ∈ prefs.ticked, x ∈ installed.packages ∧ ¬ Excluded prefs x) →
        ∀ x, x ∈ b.tunnelled installed ↔
          x ∈ prefs.ticked ∧ x ∈ installed.packages ∧ ¬ Excluded prefs x) := by
  constructor
  · rintro ⟨c, h, hc⟩
    cases h
    exact hc
  · exact fun h => ⟨b, rfl, h⟩

section Modes

variable {T : Finset Text} {tickedApps : Text} {e : Bool}

/-- Without self-exclusion the profile gets the ticked packages as they are. -/
lemma obeys_unexcluded (h : getPackageNamesFromString tickedApps = T) :
    ObeysSettings ⟨e, tickedApps, false⟩ installed
        (startVPN order installed ⟨e, tickedApps, false⟩) ↔
      Quiet order installed T := by
  by_cases hq : Quiet order installed T
  · refine iff_of_true ?_ hq
    by_cases hdeny : e = true ∨ T = ∅
    · have hload : loadSettingsForStartingVPN ⟨e, tickedApps, false⟩ = ⟨true, T⟩ := by
        obtain rfl | rfl := hdeny <;> simp [loadSettingsForStartingVPN, selectedApps, Prefs.ticked, h]
      obtain ⟨b, hb, ht⟩ := setAllowedVpnPackages_disallow (s := ⟨true, T⟩) rfl hq
      rw [startVPN, hload, hb, obeysSettings_ok]
      simp only [ht, Prefs.ticked, h, Excluded, Bool.false_eq_true, false_implies, false_and,
        not_false_eq_true, and_true, true_and]
      refine ⟨fun _ x hx hn => hn.2 hx, fun he ⟨x, hx, _⟩ => ?_⟩
      obtain rfl | rfl := hdeny
      · cases he
      · simp at hx
    · rw [not_or, Bool.not_eq_true] at hdeny
      obtain ⟨rfl, hne⟩ := hdeny
      have hload : loadSettingsForStartingVPN ⟨false, tickedApps, false⟩ = ⟨false, T⟩ := by
        simp [loadSettingsForStartingVPN, selectedApps, Prefs.ticked, h, hne]
      obtain ⟨b, hb, ht⟩ := setAllowedVpnPackages_allow (s := ⟨false, T⟩) rfl hq
      rw [startVPN, hload, hb, obeysSettings_ok]
      simp only [ht, Prefs.ticked, h, Excluded, Bool.false_eq_true, false_implies, false_and,
        not_false_eq_true, and_true, true_and, forall_const]
      rintro ⟨y, hy, hi⟩ x
      exact ⟨fun hx => hx.elim id fun hn => absurd hi (hn.1 y hy), .inl⟩
  · refine iff_of_false ?_ hq
    have herr : startVPN order installed ⟨e, tickedApps, false⟩ =
        .error .concurrentModification := by
      refine setAllowedVpnPackages_error fun hquiet => hq ?_
      rwa [show (loadSettingsForStartingVPN ⟨e, tickedApps, false⟩).mAllowedAppsVpn = T by
        simp only [loadSettingsForStartingVPN, selectedApps, Prefs.ticked, h, Bool.false_eq_true,
          if_false]
        split_ifs <;> rfl] at hquiet
    rw [herr]
    exact not_obeysSettings_error

lemma obeys_denyList (h : getPackageNamesFromString tickedApps = T) :
    ObeysSettings ⟨true, tickedApps, true⟩ installed
        (startVPN order installed ⟨true, tickedApps, true⟩) ↔
      packageName ∈ T ∧ Quiet order installed (insert packageNameString T) := by
  have hload : loadSettingsForStartingVPN ⟨true, tickedApps, true⟩ =
      ⟨true, insert packageNameString T⟩ := by
    simp [loadSettingsForStartingVPN, selectedApps, Prefs.ticked, h]
  rw [startVPN, hload]
  by_cases hq : Quiet order installed (insert packageNameString T)
  · obtain ⟨b, hb, ht⟩ := setAllowedVpnPackages_disallow
      (s := ⟨true, insert packageNameString T⟩) rfl hq
    rw [hb, obeysSettings_ok]
    simp only [ht, Prefs.ticked, h, hq, Finset.mem_insert, packageNameString_ne, installed.self,
      false_or, true_and, and_true, not_not, forall_const, Bool.true_eq_false, false_implies]
    exact ⟨fun h => h.1, fun h => ⟨h, fun x hx => by tauto⟩⟩
  · rw [setAllowedVpnPackages_error hq]
    simp [not_obeysSettings_error, hq]

lemma obeys_allowList (h : getPackageNamesFromString tickedApps = T) :
    ObeysSettings ⟨false, tickedApps, true⟩ installed
        (startVPN order installed ⟨false, tickedApps, true⟩) ↔
      packageName ∉ T ∧ (∃ x ∈ T, x ∈ installed.packages) ∧
        (packageNameString ∈ T → packageNameString ∉ installed.packages) ∧
        Quiet order installed (T.erase packageNameString) := by
  by_cases hne : T.erase packageNameString = ∅
  · -- nothing else is ticked: the name that is not this app's is disallowed, this app is not
    have hload : loadSettingsForStartingVPN ⟨false, tickedApps, true⟩ =
        ⟨true, {packageNameString}⟩ := by
      simp [loadSettingsForStartingVPN, selectedApps, Prefs.ticked, h, hne]
    refine iff_of_false ?_ ?_
    · by_cases hq : Quiet order installed {packageNameString}
      · obtain ⟨b, hb, ht⟩ := setAllowedVpnPackages_disallow
          (s := ⟨true, {packageNameString}⟩) rfl hq
        rw [startVPN, hload, hb, obeysSettings_ok]
        rintro ⟨hself, -⟩
        refine hself rfl ((ht _).2 ⟨installed.self, ?_⟩)
        simpa using packageNameString_ne
      · rw [startVPN, hload, setAllowedVpnPackages_error hq]
        exact not_obeysSettings_error
    · rintro ⟨-, ⟨x, hx, hi⟩, hr, -⟩
      have hxr : x = packageNameString := by
        by_contra hn
        simpa [hne] using Finset.mem_erase.2 ⟨hn, hx⟩
      subst hxr
      exact hr hx hi
  · have hload : loadSettingsForStartingVPN ⟨false, tickedApps, true⟩ =
        ⟨false, T.erase packageNameString⟩ := by
      simp [loadSettingsForStartingVPN, selectedApps, Prefs.ticked, h, hne]
    rw [startVPN, hload]
    by_cases hq : Quiet order installed (T.erase packageNameString)
    · obtain ⟨b, hb, ht⟩ := setAllowedVpnPackages_allow
        (s := ⟨false, T.erase packageNameString⟩) rfl hq
      rw [hb, obeysSettings_ok]
      simp only [ht, Prefs.ticked, h, hq, Excluded, Finset.mem_erase, Bool.false_eq_true,
        false_implies, true_and, and_true, forall_const]
      constructor
      · rintro ⟨hself, hall⟩
        rw [not_or] at hself
        have hT : packageName ∉ T := fun hT =>
          hself.1 ⟨⟨packageNameString_ne, hT⟩, installed.self⟩
        obtain ⟨x, hxr, hx, hi⟩ : ∃ x, x ≠ packageNameString ∧ x ∈ T ∧ x ∈ installed.packages := by
          by_contra hn
          exact hself.2 fun y hy hi => hn ⟨y, hy.1, hy.2, hi⟩
        have hxs : x ≠ packageName := fun hxs => hT (hxs ▸ hx)
        refine ⟨hT, ⟨x, hx, hi⟩, fun hr hri => ?_⟩
        obtain ⟨⟨hrr, -⟩, -⟩ | ⟨-, hrs⟩ := (hall ⟨x, hx, hi, hxs⟩ packageNameString).2
          ⟨hr, hri, packageNameString_ne.symm⟩
        · exact hrr rfl
        · exact packageNameString_ne hrs.symm
      · rintro ⟨hself, ⟨x, hx, hi⟩, hr⟩
        have hxr : x ≠ packageNameString := by
          rintro rfl
          exact hr hx hi
        have hsome : ¬ ∀ y, y ≠ packageNameString ∧ y ∈ T → y ∉ installed.packages :=
          fun hn => hn x ⟨hxr, hx⟩ hi
        refine ⟨fun hp => ?_, fun _ y => ?_⟩
        · obtain ⟨⟨-, hT⟩, -⟩ | hn := hp
          · exact hself hT
          · exact hsome hn
        · constructor
          · rintro (⟨⟨-, hy⟩, hyi⟩ | ⟨hn, -⟩)
            · exact ⟨hy, hyi, fun hys => hself (hys ▸ hy)⟩
            · exact absurd hn hsome
          · rintro ⟨hy, hyi, -⟩
            refine .inl ⟨⟨?_, hy⟩, hyi⟩
            rintro rfl
            exact hr hy hyi
    · rw [setAllowedVpnPackages_error hq]
      simp [not_obeysSettings_error, hq]

end Modes

/-- **When the settings are obeyed**: without self-exclusion if the loop does not throw; with it
if in addition this app is ticked in the deny mode, and in the allow mode if this app is not
ticked, some ticked package is installed and the name excluded in its place is not one of them. -/
theorem startVPN_obeys_iff (order : SetOrder Text) (installed : Installed) (prefs : Prefs) :
    ObeysSettings prefs installed (startVPN order installed prefs) ↔
      (prefs.excludeThisApp = false ∧ Quiet order installed prefs.ticked) ∨
      (prefs.excludeThisApp = true ∧ prefs.enableAll = true ∧ packageName ∈ prefs.ticked ∧
        Quiet order installed (insert packageNameString prefs.ticked)) ∨
      (prefs.excludeThisApp = true ∧ prefs.enableAll = false ∧ packageName ∉ prefs.ticked ∧
        (∃ x ∈ prefs.ticked, x ∈ installed.packages) ∧
        (packageNameString ∈ prefs.ticked → packageNameString ∉ installed.packages) ∧
        Quiet order installed (prefs.ticked.erase packageNameString)) := by
  obtain ⟨enableAll, tickedApps, excludeThisApp⟩ := prefs
  cases excludeThisApp
  · simp [obeys_unexcluded rfl, Prefs.ticked]
  · cases enableAll
    · simp [obeys_allowList rfl, Prefs.ticked]
    · simp [obeys_denyList rfl, Prefs.ticked]

/-- With the settings the app is delivered with, it tunnels itself. -/
theorem default_settings_not_obeyed :
    ¬ ∀ order installed prefs, ObeysSettings prefs installed (startVPN order installed prefs) := by
  intro h
  have := h ⟨Finset.toList, Finset.nodup_toList, fun s _ => s.mem_toList⟩
    ⟨{packageName}, Finset.mem_singleton_self _⟩ ⟨true, [], true⟩
  rw [startVPN_obeys_iff] at this
  have hnone : packageName ∉ (Prefs.mk true [] true).ticked := by decide
  simp [hnone] at this

end BuludTechVPN.AllowedApps
