import BuludTechVPN.AllowedApps
import BuludTechVPN.Cidr
import Mathlib

/-!
`AllowedAppsFragment` and `AllowedAppsAdapter`: the list in which the user ticks apps, and what a
connection makes of it that is started afterwards.

Only what the screen has bound to a switch can be tapped, and the text in the preferences is
written at each tap and read when the screen is opened.
-/

namespace BuludTechVPN.AppPicker

open JavaLang AllowedApps

/-- An app as the package manager lists it. The name of a package has no comma. -/
structure ApplicationInfo where
  packageName : Text
  label : Text
  uid : ℕ
  /-- Whether it holds the permission for the network. -/
  internet : Bool
  name_ne : packageName ≠ []
  name_plain : ',' ∉ packageName

structure Device where
  order : SetOrder Text
  toLowerCase : Text → Text
  /-- `DisplayNameComparator`. -/
  byDisplayName : List ApplicationInfo → List ApplicationInfo
  byDisplayName_perm : ∀ apps, (byDisplayName apps).Perm apps

/-- Where a text has a character for the last time, -1 if it has not. -/
def lastIndexOf (s : Text) (c : Char) : ℤ :=
  if c ∈ s then (s.length : ℤ) - 1 - s.reverse.idxOf c else -1

/-! ### The adapter -/

def PRELOAD_NUMBER : ℕ := 0

/-- The adapter, the names that are tags of its views, and the list that the task which was
started with the screen has loaded. -/
structure Adapter where
  dataSet : Option (List ApplicationInfo) := none
  displaySet : Option (List ApplicationInfo) := none
  numOfLoadedApps : ℕ := 0
  checkedBoxes : Finset Text := ∅
  oldStringFilter : Option Text := some []
  tags : List Text := []
  loaded : Option (List ApplicationInfo) := none

namespace Adapter

variable (d : Device) (prefs : Prefs) (a : Adapter)

def display (tempSet : List ApplicationInfo) : Adapter :=
  { a with
    displaySet := some tempSet
    numOfLoadedApps :=
      if PRELOAD_NUMBER = 0 then tempSet.length
      else if tempSet.length < PRELOAD_NUMBER then tempSet.length
      else PRELOAD_NUMBER }

/-- The apps whose label has the text in it. -/
def matching (stringFilter : Option Text) (dataSet : List ApplicationInfo) :
    List ApplicationInfo :=
  match stringFilter with
  | some (c :: s) =>
    dataSet.filter fun dataItem => contains (d.toLowerCase dataItem.label) (d.toLowerCase (c :: s))
  | _ => dataSet

def filterData (stringFilter : Option Text) : Adapter :=
  let dataSet := a.dataSet.getD []
  let tempSet := matching d stringFilter dataSet
  let tempSet :=
    if prefs.excludeThisApp then tempSet.eraseP (·.packageName = packageNameString) else tempSet
  { a with dataSet := some dataSet, oldStringFilter := stringFilter }.display tempSet

def setDataSet (dataSet : List ApplicationInfo) : Adapter :=
  { a with dataSet := some dataSet }.filterData d prefs a.oldStringFilter

def loadMoreData : Adapter :=
  let totalSize := (a.displaySet.getD []).length
  if a.numOfLoadedApps ≥ totalSize then a
  else if PRELOAD_NUMBER = 0 then { a with numOfLoadedApps := totalSize }
  else { a with numOfLoadedApps := min (a.numOfLoadedApps + PRELOAD_NUMBER) totalSize }

/-- The text that `saveCheckedBoxes` stores. -/
def savedText : Text :=
  let fullStr := (d.order.visit a.checkedBoxes).flatMap (· ++ [','])
  if lastIndexOf fullStr ',' > 0 then fullStr.dropLast else fullStr

end Adapter

/-! ### The screen -/

structure Phone where
  installed : List ApplicationInfo
  prefs : Prefs
  /-- That of the screen, if it is open. -/
  adapter : Option Adapter

/-- A phone on which the app was not used before. -/
def Phone.fresh (installed : List ApplicationInfo) : Phone := ⟨installed, ⟨true, [], true⟩, none⟩

inductive Event
  | onCreateView
  | doInBackground
  | onPostExecute
  | onCheckedChanged (isChecked : Bool)
  | onItemSelected (pos : ℕ)
  | onClickFilterButton (filterString : Option Text)
  | loadMoreData
  | onBindViewHolder (position : ℕ)
  | onClick (packageName : Text) (isChecked : Bool)
  | onDestroyView
  | install (app : ApplicationInfo)
  | uninstall (packageName : Text)

variable (d : Device)

/-- The system, and the apps that may use the network, in the order of their names. -/
def loadAppList (installed : List ApplicationInfo) : List ApplicationInfo :=
  let system := installed.find? (·.packageName = "android".toList)
  let androidSystemUid := (system.map (·.uid)).getD 0
  d.byDisplayName (system.toList ++
    installed.filter fun app => app.internet && app.uid ≠ androidSystemUid)

namespace Phone

/-- `onCreateView`, with `loadSettings`. What the switches are set to, they store again. -/
def onCreateView (s : Phone) : Phone :=
  let adapter : Adapter :=
    if s.prefs.tickedApps = [] then {}
    else { checkedBoxes := getPackageNamesFromString s.prefs.tickedApps }
  { s with adapter := some adapter }

/-- A tap on the switch of an app, after which the switch is on or off. -/
def click (s : Phone) (a : Adapter) (packageName : Text) (isChecked : Bool) : Phone :=
  if packageName = [] then s
  else
    let save (a : Adapter) : Phone :=
      { s with adapter := some a, prefs := { s.prefs with tickedApps := a.savedText d } }
    if isChecked then
      if packageName ∉ a.checkedBoxes then
        save { a with checkedBoxes := insert packageName a.checkedBoxes }
      else s
    else
      if packageName ∈ a.checkedBoxes then
        save { a with checkedBoxes := a.checkedBoxes.erase packageName }
      else s

/-- What happens on an open screen. -/
def onScreen (s : Phone) (a : Adapter) : Event → Option Phone
  | .doInBackground =>
    some { s with adapter := some { a with loaded := some (loadAppList d s.installed) } }
  | .onPostExecute =>
    a.loaded.map fun applicationInfos =>
      { s with adapter := some (a.setDataSet d s.prefs applicationInfos) }
  | .onCheckedChanged isChecked =>
    let prefs := { s.prefs with excludeThisApp := isChecked }
    some { s with prefs := prefs, adapter := some (a.filterData d prefs a.oldStringFilter) }
  | .onItemSelected pos => some { s with prefs := { s.prefs with enableAll := pos = 0 } }
  | .onClickFilterButton filterString =>
    some { s with adapter := some (a.filterData d s.prefs filterString) }
  | .loadMoreData => some { s with adapter := some a.loadMoreData }
  | .onBindViewHolder position =>
    if position < a.numOfLoadedApps then
      (a.displaySet.getD [])[position]?.map fun item =>
        { s with adapter := some { a with tags := item.packageName :: a.tags } }
    else none
  | .onClick packageName isChecked =>
    if packageName ∈ a.tags then some (s.click d a packageName isChecked) else none
  | .onDestroyView => some { s with adapter := none }
  | .onCreateView | .install _ | .uninstall _ => none

/-- A step, where it is one that can be made. -/
def step (s : Phone) : Event → Option Phone
  | .onCreateView => some s.onCreateView
  | .install app => some { s with installed := app :: s.installed }
  | .uninstall packageName =>
    some { s with installed := s.installed.filter (·.packageName ≠ packageName) }
  | e => s.adapter.bind fun a => s.onScreen d a e

def run (s : Phone) (es : List Event) : Option Phone := es.foldlM (step d) s

end Phone

/-! ### What the user wants -/

/-- The last choices the user made. -/
structure Choices where
  enableAll : Bool := true
  excludeThisApp : Bool := true
  ticked : Finset Text := ∅

def Choices.next (c : Choices) : Event → Choices
  | .onCheckedChanged isChecked => { c with excludeThisApp := isChecked }
  | .onItemSelected pos => { c with enableAll := pos = 0 }
  | .onClick packageName isChecked =>
    { c with
      ticked := if isChecked then insert packageName c.ticked else c.ticked.erase packageName }
  | _ => c

def choices (es : List Event) : Choices := es.foldl Choices.next {}

/-! ### The text that is stored -/

variable {d} {prefs : Prefs} {a : Adapter} {s t : Phone} {c : Choices} {e : Event} {p : Text}

/-- A name that the text keeps apart from others. -/
def Plain (p : Text) : Prop := p ≠ [] ∧ ',' ∉ p

lemma lastIndexOf_concat (s : Text) (c : Char) : lastIndexOf (s ++ [c]) c = s.length := by
  unfold lastIndexOf
  rw [if_pos (by simp), List.reverse_append, List.reverse_singleton, List.singleton_append,
    List.idxOf_cons_self, List.length_append]
  simp

/-- The names with a comma after each are those with commas between them, and one comma. -/
lemma flatMap_comma {w : Text} {ws : List Text} : (w :: ws).flatMap (· ++ [',']) =
    [','].intercalate (w :: ws) ++ [','] := by
  induction ws generalizing w with
  | nil => simp
  | cons v ws ih =>
    rw [List.flatMap_cons, ih, List.intercalate_cons_cons]
    simp

/-- **The stored text** is read as the names that were stored. -/
lemma getPackageNames_savedText (h : ∀ p ∈ a.checkedBoxes, Plain p) :
    getPackageNamesFromString (a.savedText d) = a.checkedBoxes := by
  have hws : ∀ w ∈ d.order.visit a.checkedBoxes, ',' ∉ w ∧ w ≠ [] := fun w hw =>
    (h w ((d.order.mem_visit _ _).1 hw)).symm
  have hset : (d.order.visit a.checkedBoxes).toFinset = a.checkedBoxes := by
    ext w
    rw [List.mem_toFinset, d.order.mem_visit]
  have herase : a.checkedBoxes.erase [] = a.checkedBoxes :=
    Finset.erase_eq_of_notMem fun hm => (h _ hm).1 rfl
  unfold Adapter.savedText getPackageNamesFromString
  cases hvisit : d.order.visit a.checkedBoxes with
  | nil =>
    rw [hvisit] at hset
    rw [← hset]
    decide
  | cons w ws =>
    rw [hvisit] at hws hset
    have hpos : 0 < ([','].intercalate (w :: ws)).length := by
      apply List.length_pos_of_ne_nil
      cases ws with
      | nil => simpa using (hws w List.mem_cons_self).2
      | cons v ws => simp [List.intercalate_cons_cons]
    have htext : (if lastIndexOf ((w :: ws).flatMap (· ++ [','])) ',' > 0 then
        ((w :: ws).flatMap (· ++ [','])).dropLast else (w :: ws).flatMap (· ++ [','])) =
        [','].intercalate (w :: ws) := by
      rw [flatMap_comma, lastIndexOf_concat, if_pos (by omega), List.dropLast_concat]
    simp only [htext]
    have hsplit : splitAt (· = ',') ([','].intercalate (w :: ws)) = w :: ws := by
      cases ws with
      | nil =>
        have hno : (w.any fun c => c = ',') = false := by
          rw [List.any_eq_false]
          intro c hc hcomma
          exact (hws w List.mem_cons_self).1 (of_decide_eq_true hcomma ▸ hc)
        rw [List.intercalate_singleton, splitAt, if_neg (by simp [hno])]
      | cons v ws => exact Cidr.splitAt_intercalate hws (by simp)
    rw [hsplit, hset, herase]

/-! ### Runs -/

@[simp] lemma filterData_checkedBoxes (f : Option Text) :
    (a.filterData d prefs f).checkedBoxes = a.checkedBoxes := rfl

@[simp] lemma filterData_tags (f : Option Text) : (a.filterData d prefs f).tags = a.tags := rfl

@[simp] lemma setDataSet_checkedBoxes (apps : List ApplicationInfo) :
    (a.setDataSet d prefs apps).checkedBoxes = a.checkedBoxes := rfl

@[simp] lemma setDataSet_tags (apps : List ApplicationInfo) :
    (a.setDataSet d prefs apps).tags = a.tags := rfl

lemma loadMoreData_keeps : a.loadMoreData.checkedBoxes = a.checkedBoxes ∧
    a.loadMoreData.tags = a.tags := by
  unfold Adapter.loadMoreData
  simp only
  split_ifs <;> exact ⟨rfl, rfl⟩

/-- The ticks of a screen are those of the user, and it has names to tap that are names. -/
structure OnScreen (ticked : Finset Text) (a : Adapter) : Prop where
  checkedBoxes : a.checkedBoxes = ticked
  tags : ∀ p ∈ a.tags, Plain p

/-- What is stored is what the user wants. -/
structure Agrees (c : Choices) (s : Phone) : Prop where
  enableAll : s.prefs.enableAll = c.enableAll
  excludeThisApp : s.prefs.excludeThisApp = c.excludeThisApp
  ticked : s.prefs.ticked = c.ticked
  plain : ∀ p ∈ c.ticked, Plain p
  screen : ∀ a, s.adapter = some a → OnScreen c.ticked a

lemma agrees_fresh (installed : List ApplicationInfo) : Agrees {} (Phone.fresh installed) where
  enableAll := rfl
  excludeThisApp := rfl
  ticked := by
    change getPackageNamesFromString [] = ∅
    decide
  plain := by simp
  screen := by
    rintro a ⟨⟩

/-- A tap that changes the ticks stores them. -/
lemma Agrees.save {ticked : Finset Text} (h : Agrees c s) (ha : OnScreen c.ticked a)
    (hplain : ∀ p ∈ ticked, Plain p) :
    Agrees { c with ticked := ticked }
      { s with adapter := some { a with checkedBoxes := ticked },
               prefs := { s.prefs with tickedApps := { a with checkedBoxes := ticked }.savedText d } }
    where
  enableAll := h.enableAll
  excludeThisApp := h.excludeThisApp
  ticked := getPackageNames_savedText (a := { a with checkedBoxes := ticked }) hplain
  plain := hplain
  screen := by
    rintro b ⟨⟩
    exact ⟨rfl, ha.tags⟩

/-- **A tap** is the choice of the user, whether or not it changes the ticks. -/
lemma Agrees.click {isChecked : Bool} (h : Agrees c s) (hs : s.adapter = some a) (hp : Plain p) :
    Agrees (c.next (.onClick p isChecked)) (s.click d a p isChecked) := by
  have ha := h.screen a hs
  have hsame {ticked : Finset Text} (heq : ticked = c.ticked) :
      Agrees { c with ticked := ticked } s := by
    rw [heq]
    exact h
  unfold Phone.click Choices.next
  simp only [hp.1, if_false]
  split_ifs with h1 h2 h2
  · rw [ha.checkedBoxes] at h2
    exact hsame (Finset.insert_eq_of_mem h2)
  · have hinsert : insert p a.checkedBoxes = insert p c.ticked := by rw [ha.checkedBoxes]
    rw [hinsert]
    refine h.save ha fun q hq => ?_
    rcases Finset.mem_insert.1 hq with rfl | hq
    · exact hp
    · exact h.plain q hq
  · have herase : a.checkedBoxes.erase p = c.ticked.erase p := by rw [ha.checkedBoxes]
    rw [herase]
    exact h.save ha fun q hq => h.plain q (Finset.mem_of_mem_erase hq)
  · rw [ha.checkedBoxes] at h2
    exact hsame (Finset.erase_eq_of_notMem h2)

lemma Agrees.onScreen (h : Agrees c s) (hs : s.adapter = some a)
    (ht : s.onScreen d a e = some t) : Agrees (c.next e) t := by
  obtain ⟨hchecked, htags⟩ := h.screen a hs
  have hadapter (b : Adapter) (hb : OnScreen c.ticked b) :
      ∀ x, some b = some x → OnScreen c.ticked x := by
    rintro x ⟨⟩
    exact hb
  cases e with
  | doInBackground =>
    cases ht
    exact ⟨h.enableAll, h.excludeThisApp, h.ticked, h.plain, hadapter _ ⟨hchecked, htags⟩⟩
  | onPostExecute =>
    obtain ⟨apps, -, rfl⟩ := Option.map_eq_some_iff.1 ht
    exact ⟨h.enableAll, h.excludeThisApp, h.ticked, h.plain, hadapter _ ⟨hchecked, htags⟩⟩
  | onCheckedChanged isChecked =>
    cases ht
    exact ⟨h.enableAll, rfl, h.ticked, h.plain, hadapter _ ⟨hchecked, htags⟩⟩
  | onItemSelected pos =>
    cases ht
    exact ⟨rfl, h.excludeThisApp, h.ticked, h.plain, fun b hb => h.screen b hb⟩
  | onClickFilterButton filterString =>
    cases ht
    exact ⟨h.enableAll, h.excludeThisApp, h.ticked, h.plain, hadapter _ ⟨hchecked, htags⟩⟩
  | loadMoreData =>
    cases ht
    obtain ⟨hc, ht⟩ := loadMoreData_keeps (a := a)
    exact ⟨h.enableAll, h.excludeThisApp, h.ticked, h.plain,
      hadapter _ ⟨hc.trans hchecked, ht ▸ htags⟩⟩
  | onBindViewHolder position =>
    simp only [Phone.onScreen] at ht
    split_ifs at ht
    obtain ⟨item, -, rfl⟩ := Option.map_eq_some_iff.1 ht
    refine ⟨h.enableAll, h.excludeThisApp, h.ticked, h.plain, hadapter _ ⟨hchecked, fun p hp => ?_⟩⟩
    rcases List.mem_cons.1 hp with rfl | hp
    · exact ⟨item.name_ne, item.name_plain⟩
    · exact htags p hp
  | onClick packageName isChecked =>
    simp only [Phone.onScreen] at ht
    split_ifs at ht with hm
    cases ht
    exact h.click hs (htags _ hm)
  | onDestroyView =>
    cases ht
    exact ⟨h.enableAll, h.excludeThisApp, h.ticked, h.plain, by simp⟩
  | onCreateView => cases ht
  | install app => cases ht
  | uninstall packageName => cases ht

/-- **One step** of the screen, of the user or of the phone. -/
lemma Agrees.step (h : Agrees c s) (ht : s.step d e = some t) : Agrees (c.next e) t := by
  have hscreen (ht : (s.adapter.bind fun a => s.onScreen d a e) = some t) :
      Agrees (c.next e) t := by
    obtain ⟨a, hs, ht⟩ := Option.bind_eq_some_iff.1 ht
    exact h.onScreen hs ht
  cases e with
  | onCreateView =>
    cases ht
    refine ⟨h.enableAll, h.excludeThisApp, h.ticked, h.plain, ?_⟩
    rintro a ⟨⟩
    split_ifs with hempty
    · have hnone : c.ticked = ∅ := by
        rw [← h.ticked, Prefs.ticked, hempty]
        decide
      exact ⟨hnone.symm, by simp⟩
    · exact ⟨h.ticked, by simp⟩
  | install app =>
    cases ht
    exact ⟨h.enableAll, h.excludeThisApp, h.ticked, h.plain, h.screen⟩
  | uninstall packageName =>
    cases ht
    exact ⟨h.enableAll, h.excludeThisApp, h.ticked, h.plain, h.screen⟩
  | _ => exact hscreen ht

lemma agrees_run {es : List Event} (h : Agrees c s) (ht : s.run d es = some t) :
    Agrees (es.foldl Choices.next c) t := by
  unfold Phone.run at ht
  induction es generalizing s c with
  | nil =>
    cases ht
    exact h
  | cons e es ih =>
    rw [List.foldlM_cons] at ht
    obtain ⟨s', hs', ht⟩ := Option.bind_eq_some_iff.1 ht
    exact ih (h.step hs') ht

/-- A phone that sorts packages by their names. -/
def alphabetical : Device where
  order :=
    { visit := fun s => s.sort (· ≤ ·)
      nodup := fun s => s.sort_nodup _
      mem_visit := fun s _ => s.mem_sort _ }
  toLowerCase := id
  byDisplayName := id
  byDisplayName_perm := fun _ => List.Perm.refl _

def browser : ApplicationInfo :=
  ⟨"org.browser".toList, "Browser".toList, 10001, true, by decide, by decide⟩

def vpnApp : ApplicationInfo := ⟨packageName, "VPN".toList, 10002, true, by decide, by decide⟩

/-- The browser is ticked, and only what is ticked shall be tunnelled. -/
def browserTicked : List Event :=
  [.onCreateView, .doInBackground, .onPostExecute, .onCheckedChanged false, .onItemSelected 1,
    .onBindViewHolder 0, .onClick browser.packageName true]

variable {order : SetOrder Text} {ins : Installed}

lemma loadSettings_unexcluded (h : prefs.excludeThisApp = false) :
    loadSettingsForStartingVPN prefs =
      ⟨prefs.enableAll || decide (prefs.ticked = ∅), prefs.ticked⟩ := by
  have hselected : selectedApps prefs = prefs.ticked := by
    rw [selectedApps, h]
    rfl
  unfold loadSettingsForStartingVPN
  rw [hselected, h]
  by_cases hnone : prefs.ticked = ∅
  · cases prefs.enableAll <;> simp [hnone]
  · simp [hnone]

/-- What the tunnel is for, if the ticked apps are all there. -/
lemma startVPN_ticked (h : prefs.excludeThisApp = false)
    (hticked : ∀ p ∈ prefs.ticked, p ∈ ins.packages) :
    ∃ b, startVPN order ins prefs = .ok b ∧ ∀ x, x ∈ b.tunnelled ins ↔ x ∈ ins.packages ∧
      (if prefs.enableAll = true ∨ prefs.ticked = ∅ then x ∉ prefs.ticked
        else x ∈ prefs.ticked) := by
  have hquiet : Quiet order ins prefs.ticked := fun p hp =>
    hticked p ((order.mem_visit _ _).1 (List.dropLast_subset _ hp))
  rw [startVPN, loadSettings_unexcluded h]
  by_cases hdeny : prefs.enableAll = true ∨ prefs.ticked = ∅
  · have htrue : (prefs.enableAll || decide (prefs.ticked = ∅)) = true := by simpa using hdeny
    obtain ⟨b, hb, hx⟩ := setAllowedVpnPackages_disallow (s := ⟨_, prefs.ticked⟩) htrue hquiet
    refine ⟨b, hb, fun x => ?_⟩
    rw [hx, if_pos hdeny]
  · have hfalse : (prefs.enableAll || decide (prefs.ticked = ∅)) = false := by simpa using hdeny
    obtain ⟨b, hb, hx⟩ := setAllowedVpnPackages_allow (s := ⟨_, prefs.ticked⟩) hfalse hquiet
    refine ⟨b, hb, fun x => ?_⟩
    rw [hx, if_neg hdeny]
    rw [not_or] at hdeny
    obtain ⟨q, hq⟩ := Finset.nonempty_iff_ne_empty.2 hdeny.2
    constructor
    · rintro (⟨h1, h2⟩ | ⟨hnone, -⟩)
      · exact ⟨h2, h1⟩
      · exact absurd (hticked q hq) (hnone q hq)
    · rintro ⟨h1, h2⟩
      exact .inl ⟨h2, h1⟩

/-- The packages that are installed. -/
def Phone.packages (s : Phone) : Finset Text := (s.installed.map (·.packageName)).toFinset

/-- The phone of the example has the apps it was delivered with. -/
def exampleApps : Installed := ⟨{browser.packageName, packageName}, by decide⟩

/-- A list without the app. -/
def Lacks (p : Text) (apps : List ApplicationInfo) : Prop := ∀ app ∈ apps, app.packageName ≠ p

/-- The app is not installed, and the screen does not show it. -/
structure Gone (p : Text) (s : Phone) : Prop where
  installed : Lacks p s.installed
  tags : ∀ a, s.adapter = some a → p ∉ a.tags
  lists : ∀ a, s.adapter = some a →
    Lacks p (a.dataSet.getD []) ∧ Lacks p (a.displaySet.getD []) ∧ Lacks p (a.loaded.getD [])

variable {apps : List ApplicationInfo}

lemma Lacks.loadAppList (h : Lacks p apps) : Lacks p (loadAppList d apps) := by
  intro app happ
  rcases List.mem_append.1 ((d.byDisplayName_perm _).mem_iff.1 happ) with hsystem | hother
  · exact h app (List.mem_of_find?_eq_some (Option.mem_toList.1 hsystem))
  · exact h app (List.mem_of_mem_filter hother)

lemma Lacks.matching {f : Option Text} (h : Lacks p apps) : Lacks p (Adapter.matching d f apps) := by
  unfold Adapter.matching
  split
  · exact fun app happ => h app (List.mem_of_mem_filter happ)
  · exact h

lemma Lacks.filterData {f : Option Text} (h : Lacks p (a.dataSet.getD [])) :
    Lacks p ((a.filterData d prefs f).dataSet.getD []) ∧
      Lacks p ((a.filterData d prefs f).displaySet.getD []) := by
  refine ⟨h, fun app happ => ?_⟩
  have hm : app ∈ Adapter.matching d f (a.dataSet.getD []) := by
    change app ∈ (if prefs.excludeThisApp then _ else _) at happ
    split_ifs at happ
    · exact List.mem_of_mem_eraseP happ
    · exact happ
  exact h.matching app hm

lemma Gone.onScreen (h : Gone p s) (hs : s.adapter = some a) (ht : s.onScreen d a e = some t) :
    Gone p t := by
  have htags := h.tags a hs
  obtain ⟨hdata, hdisplay, hloaded⟩ := h.lists a hs
  have hgone {prefs : Prefs} (b : Adapter) (hb : p ∉ b.tags)
      (hl : Lacks p (b.dataSet.getD []) ∧ Lacks p (b.displaySet.getD []) ∧
        Lacks p (b.loaded.getD [])) : Gone p ⟨s.installed, prefs, some b⟩ := by
    refine ⟨h.installed, ?_, ?_⟩
    · rintro x ⟨⟩
      exact hb
    · rintro x ⟨⟩
      exact hl
  have hfilter {b : Adapter} {prefs : Prefs} {f : Option Text} (hb : Lacks p (b.dataSet.getD []))
      (hl : Lacks p (b.loaded.getD [])) : Lacks p ((b.filterData d prefs f).dataSet.getD []) ∧
        Lacks p ((b.filterData d prefs f).displaySet.getD []) ∧
          Lacks p ((b.filterData d prefs f).loaded.getD []) :=
    ⟨hb.filterData.1, hb.filterData.2, hl⟩
  cases e with
  | doInBackground =>
    cases ht
    exact hgone _ htags ⟨hdata, hdisplay, h.installed.loadAppList⟩
  | onPostExecute =>
    obtain ⟨apps, happs, rfl⟩ := Option.map_eq_some_iff.1 ht
    rw [happs] at hloaded
    exact hgone _ htags (hfilter (b := { a with dataSet := some apps }) hloaded
      (by rw [happs]; exact hloaded))
  | onCheckedChanged isChecked =>
    cases ht
    exact hgone _ htags (hfilter hdata hloaded)
  | onItemSelected pos =>
    cases ht
    exact ⟨h.installed, h.tags, h.lists⟩
  | onClickFilterButton filterString =>
    cases ht
    exact hgone _ htags (hfilter hdata hloaded)
  | loadMoreData =>
    cases ht
    have hmore : p ∉ a.loadMoreData.tags := by
      rw [loadMoreData_keeps.2]
      exact htags
    refine hgone _ hmore ?_
    unfold Adapter.loadMoreData
    simp only
    split_ifs <;> exact ⟨hdata, hdisplay, hloaded⟩
  | onBindViewHolder position =>
    simp only [Phone.onScreen] at ht
    split_ifs at ht
    obtain ⟨item, hitem, rfl⟩ := Option.map_eq_some_iff.1 ht
    refine hgone _ (fun hp => ?_) ⟨hdata, hdisplay, hloaded⟩
    rcases List.mem_cons.1 hp with rfl | hp
    · exact hdisplay item (List.mem_of_getElem? hitem) rfl
    · exact htags hp
  | onClick packageName isChecked =>
    simp only [Phone.onScreen] at ht
    split_ifs at ht
    cases ht
    unfold Phone.click
    simp only
    split_ifs
    · exact h
    · exact h
    · exact hgone _ htags ⟨hdata, hdisplay, hloaded⟩
    · exact hgone _ htags ⟨hdata, hdisplay, hloaded⟩
    · exact h
  | onDestroyView =>
    cases ht
    exact ⟨h.installed, by simp, by simp⟩
  | onCreateView => cases ht
  | install app => cases ht
  | uninstall packageName => cases ht

/-- The app comes back. -/
def Event.Reinstalls (p : Text) : Event → Prop
  | .install app => app.packageName = p
  | _ => False

/-- **One step**: what is gone stays so unless it is installed again, and its tick cannot be
tapped. -/
lemma Gone.step (h : Gone p s) (he : ¬ e.Reinstalls p) (ht : s.step d e = some t) :
    Gone p t ∧ (p ∈ c.ticked → p ∈ (c.next e).ticked) := by
  have hscreen (ht : (s.adapter.bind fun a => s.onScreen d a e) = some t) : Gone p t := by
    obtain ⟨a, hs, ht⟩ := Option.bind_eq_some_iff.1 ht
    exact h.onScreen hs ht
  cases e with
  | onCreateView =>
    cases ht
    refine ⟨⟨h.installed, ?_, ?_⟩, id⟩
    · rintro a ⟨⟩
      split_ifs <;> simp
    · rintro a ⟨⟩
      split_ifs <;> simp [Lacks]
  | install app =>
    cases ht
    refine ⟨⟨fun x hx => ?_, h.tags, h.lists⟩, id⟩
    rcases List.mem_cons.1 hx with rfl | hx
    · exact he
    · exact h.installed x hx
  | uninstall packageName =>
    cases ht
    exact ⟨⟨fun x hx => h.installed x (List.mem_of_mem_filter hx), h.tags, h.lists⟩, id⟩
  | onClick packageName isChecked =>
    refine ⟨hscreen ht, fun hp => ?_⟩
    obtain ⟨a, hs, ht⟩ := Option.bind_eq_some_iff.1 ht
    simp only [Phone.onScreen] at ht
    split_ifs at ht with hm
    have hne : p ≠ packageName := by
      rintro rfl
      exact h.tags a hs hm
    unfold Choices.next
    simp only
    split_ifs
    · exact Finset.mem_insert_of_mem hp
    · exact Finset.mem_erase.2 ⟨hne, hp⟩
  | _ => exact ⟨hscreen ht, id⟩

lemma gone_run {es : List Event} (h : Gone p s) (hes : ∀ e ∈ es, ¬ e.Reinstalls p)
    (ht : s.run d es = some t) :
    Gone p t ∧ (p ∈ c.ticked → p ∈ (es.foldl Choices.next c).ticked) := by
  unfold Phone.run at ht
  induction es generalizing s c with
  | nil =>
    cases ht
    exact ⟨h, id⟩
  | cons e es ih =>
    rw [List.foldlM_cons] at ht
    obtain ⟨s', hs', ht⟩ := Option.bind_eq_some_iff.1 ht
    obtain ⟨hgone, hkeep⟩ := h.step (hes e List.mem_cons_self) hs' (c := c)
    obtain ⟨hgone, hrest⟩ := ih hgone (fun e he => hes e (List.mem_cons_of_mem _ he)) ht
      (c := c.next e)
    exact ⟨hgone, fun hp => hrest (hkeep hp)⟩

/-- A package of the profile that is not installed is fatal, unless it is visited last. -/
lemma startVPN_error (hp : p ∈ prefs.ticked) (hne : p ≠ packageNameString) (hgone : p ∉ ins.packages)
    (hlast : (order.visit (loadSettingsForStartingVPN prefs).mAllowedAppsVpn).getLast? ≠ some p) :
    startVPN order ins prefs = .error .concurrentModification := by
  have hselected : p ∈ selectedApps prefs := by
    unfold selectedApps
    split_ifs
    · exact Finset.mem_insert_of_mem hp
    · exact Finset.mem_erase.2 ⟨hne, hp⟩
    · exact hp
  have hmem : p ∈ (loadSettingsForStartingVPN prefs).mAllowedAppsVpn := by
    unfold loadSettingsForStartingVPN
    split_ifs with hnone
    · rw [hnone.2] at hselected
      exact absurd hselected (Finset.notMem_empty p)
    · rw [hnone.2] at hselected
      exact absurd hselected (Finset.notMem_empty p)
    · exact hselected
  refine setAllowedVpnPackages_error fun hquiet => hgone (hquiet p ?_)
  exact List.mem_dropLast_of_mem_of_ne_getLast? ((order.mem_visit _ _).2 hmem) hlast.symm

/-- The browser is uninstalled, and the screen is opened again. -/
def reopened : List Event := [.onCreateView, .onItemSelected 0, .onDestroyView]

end BuludTechVPN.AppPicker
