import BuludTechVPN.HoldRelease
import BuludTechVPN.ManagementCommands
import BuludTechVPN.WordScan

/-!
What the management thread writes to the socket.

Whatever arrives, the text on the socket is a sequence of whole replies: a query that OpenVPN waits
with is answered once, a password is written only when it is asked for, and no name or password
can end its line early.
-/

namespace BuludTechVPN.Management

open JavaLang Status Passwords DeviceState

/-! ### Replies -/

inductive Reply
  | plain (cmd : Text)
  | needok (needed status : Text)
  | username (needed : Text) (name : Option Text)
  | password (needed pw : Text)
  | rsaSig (signed : Text)

namespace Reply

def lines : Reply → List Text
  | plain cmd => [cmd]
  | needok needed status => ["needok '".toList ++ needed ++ "' ".toList ++ status]
  | username needed name => ["username '".toList ++ needed ++ "' ".toList ++
      Session.textOf (name.map VpnProfile.openVpnEscape)]
  | password needed pw =>
    ["password '".toList ++ needed ++ "' ".toList ++ VpnProfile.openVpnEscape pw]
  | rsaSig signed => ["rsa-sig".toList, signed, "END".toList]

def text (r : Reply) : Text := r.lines.flatMap (· ++ ['\n'])

/-- What is answered. -/
def answers : Reply → Option Text
  | needok needed _ => some needed
  | _ => none

/-- The password that is given away, and what for. -/
def secret : Reply → Option (Text × Text)
  | password needed pw => some (needed, pw)
  | _ => none

/-- No line of the reply is broken. -/
def Whole (r : Reply) : Prop := ∀ l ∈ r.lines, '\n' ∉ l

end Reply

/-! ### Commands of the receiver -/

/-- The commands that the receiver of the device state has written. -/
def deviceCommands : List Text :=
  [Phone.holdRelease, Phone.bytecount, Phone.stateOn, Phone.signalSigusr1, Phone.networkChangeCmd]

def commands (p : Phone) : List Text := p.written.map fun w => w.command

/-- From `p` to `q` only such commands were written. -/
structure Commands (p q : Phone) : Prop where
  mSocket : q.thread.mSocket = p.thread.mSocket
  written : ∃ cmds, (∀ c ∈ cmds, c ∈ deviceCommands) ∧ commands q = commands p ++ cmds ∧
    (p.thread.mSocket = false → cmds = [])

namespace Commands

variable {p q r : Phone} {now : ℤ} {cmd : Text}

lemma of_eq (hs : q.thread.mSocket = p.thread.mSocket) (hw : q.written = p.written) :
    Commands p q :=
  ⟨hs, [], by simp, by simp [commands, hw], fun _ => rfl⟩

lemma refl (p : Phone) : Commands p p := of_eq rfl rfl

lemma trans (hpq : Commands p q) (hqr : Commands q r) : Commands p r := by
  obtain ⟨hs, cs, hc, hw, hn⟩ := hpq
  obtain ⟨hs', cs', hc', hw', hn'⟩ := hqr
  refine ⟨hs'.trans hs, cs ++ cs', fun c h => (List.mem_append.1 h).elim (hc c) (hc' c), ?_,
    fun hp => ?_⟩
  · rw [hw', hw, List.append_assoc]
  · rw [hn hp, hn' (hs.trans hp), List.append_nil]

lemma managmentCommand (h : Commands p q) (hc : cmd ∈ deviceCommands) :
    Commands p (q.managmentCommand cmd) := by
  refine h.trans ?_
  unfold Phone.managmentCommand
  split_ifs with hopen
  · exact ⟨rfl, [cmd], by simpa using hc, by simp [commands], fun hp => by simp [hopen] at hp⟩
  · exact refl q

lemma releaseHoldCmd (h : Commands p q) : Commands p (q.releaseHoldCmd now) := by
  unfold Phone.releaseHoldCmd
  have hq : Commands p { q with thread := { q.thread with
      mResumeHandler := 0, mWaitingForRelease := false, mLastHoldRelease :=
        if now - q.thread.mLastHoldRelease < 5000 then now + 3000 else now } } :=
    h.trans (of_eq rfl rfl)
  exact ((hq.managmentCommand (by simp [deviceCommands])).managmentCommand
    (by simp [deviceCommands])).managmentCommand (by simp [deviceCommands])

lemma releaseHold (h : Commands p q) : Commands p (q.releaseHold now) := by
  unfold Phone.releaseHold
  split_ifs
  · exact h.releaseHoldCmd
  · exact h

lemma signalusr1 (h : Commands p q) : Commands p q.signalusr1 := by
  unfold Phone.signalusr1
  have hq : Commands p { q with thread := { q.thread with mResumeHandler := 0 } } :=
    h.trans (of_eq rfl rfl)
  simp only
  split_ifs
  · exact hq
  · exact hq.managmentCommand (by simp [deviceCommands])

lemma pause {reason : PauseReason} (h : Commands p q) : Commands p (q.pause reason) :=
  (h.trans (of_eq (q := { q.issue (.pause reason) with thread :=
    { q.thread with lastPauseReason := reason } }) rfl rfl)).signalusr1

lemma resume (h : Commands p q) : Commands p (q.resume now) := by
  have hi : Commands p (q.issue .resume) := h.trans (of_eq rfl rfl)
  have hr : Commands p ((q.issue .resume).releaseHold now) := hi.releaseHold
  exact hr.trans (of_eq rfl rfl)

lemma networkChange {same : Bool} (h : Commands p q) : Commands p (q.networkChange now same) := by
  have hi : Commands p (q.issue (.networkChange same)) := h.trans (of_eq rfl rfl)
  unfold Phone.networkChange
  simp only
  split_ifs
  · exact hi.releaseHold
  · exact hi.managmentCommand (by simp [deviceCommands])

/-- The receiver writes nothing itself. -/
lemma receiver {rcv : DeviceStateReceiver} (h : Commands p q) :
    Commands p { q with receiver := rcv } :=
  h.trans (of_eq rfl rfl)

lemma networkStateChange {info : Option NetworkInfo} {sendusr1 : Bool} (h : Commands p q) :
    Commands p (q.networkStateChange now info sendusr1) := by
  unfold Phone.networkStateChange
  cases info with
  | none =>
    simp only
    split_ifs
    · exact h.receiver.receiver
    · exact h.receiver
  | some info =>
    simp only
    split_ifs
    · exact h.receiver.receiver.networkChange
    · exact h.receiver.receiver.receiver.networkChange.receiver
    · exact h.receiver.receiver.receiver.resume.receiver
    · exact h.receiver.receiver.receiver
    · exact h

/-- **The receiver of the device state** writes nothing but its commands. -/
lemma handle (event : DeviceState.Event) (he : event ≠ .accept) :
    Commands p (DeviceState.handle now p event) := by
  cases event with
  | accept => exact absurd rfl he
  | register info sendusr1 =>
    exact (of_eq (p := p) (q := { p with receiver := .new, thread :=
      { p.thread with mPauseCallback := true } }) rfl rfl).networkStateChange
  | hold waittime =>
    unfold DeviceState.handle Phone.handleHold
    simp only
    split_ifs
    · exact of_eq rfl rfl
    · exact of_eq rfl rfl
  | resumeHold =>
    have hq : Commands p { p with thread :=
        { p.thread with mResumeHandler := p.thread.mResumeHandler - 1 } } := of_eq rfl rfl
    unfold DeviceState.handle Phone.resumeHold
    simp only
    split_ifs
    · exact hq.releaseHoldCmd
    · exact hq
  | userPause pause =>
    unfold DeviceState.handle Phone.userPause
    simp only
    split_ifs
    · exact (refl p).receiver.pause
    · exact (refl p).receiver.resume
    · exact (refl p).receiver.pause
  | screenOff screenOffPause =>
    unfold DeviceState.handle Phone.screenOff
    simp only
    split_ifs
    · exact (refl p).receiver
    · exact (refl p).receiver
    · exact refl p
  | screenOn =>
    unfold DeviceState.handle Phone.screenOn
    simp only
    split_ifs
    · exact (refl p).receiver.resume
    · exact (refl p).receiver.pause
    · exact (refl p).receiver
  | networkStateChange info sendusr1 => exact (refl p).networkStateChange
  | delayDisconnect =>
    unfold DeviceState.handle Phone.delayDisconnect
    simp only
    split_ifs
    · exact (refl p).receiver.receiver.pause
    · exact (refl p).receiver
  | updateByteCount diffIn diffOut =>
    unfold DeviceState.handle Phone.updateByteCount
    simp only
    split_ifs
    · exact refl p
    · exact (refl p).receiver.receiver.pause
    · exact (refl p).receiver

end Commands

/-! ### Queries -/

/-- The kind of a line that begins with `>`, and what follows its first colon. -/
def noticeOf (command : Text) : Option (Notice × Text) :=
  if startsWith command ">".toList ∧ ':' ∈ command then
    (Notice.ofName ((command.takeWhile (· ≠ ':')).drop 1)).map fun n =>
      (n, (command.dropWhile (· ≠ ':')).tail)
  else none

/-- The query that the argument of a `NEED-OK` line makes, if it is known. -/
def queryOf (argument : Text) : Option Text :=
  ((quoted argument).toOption.map Prod.fst).filter fun needed => (Need.ofName needed).isSome

/-- What the argument of a `PASSWORD` line asks the password for. -/
def promptOf (argument : Text) : Option Text :=
  if startsWith argument "Verification Failed".toList then none
  else (quoted argument).toOption.map Prod.fst

/-- What a line asks for and OpenVPN waits with. -/
def asked (command : Text) : Option Text :=
  (noticeOf command).bind fun n => if n.1 = .needOk then queryOf n.2 else none

/-- What a line asks the password for. -/
def prompted (command : Text) : Option Text :=
  (noticeOf command).bind fun n => if n.1 = .password then promptOf n.2 else none

lemma mem_of_mem_splitUpTo {c d : Char} {n : ℕ} {s w : Text} (hw : w ∈ splitUpTo c n s)
    (hd : d ∈ w) : d ∈ s := by
  induction n generalizing s with
  | zero =>
    rw [splitUpTo, List.mem_singleton] at hw
    exact hw ▸ hd
  | succ n ih =>
    rw [splitUpTo] at hw
    split_ifs at hw
    · rcases List.mem_cons.1 hw with rfl | hw
      · exact (List.takeWhile_sublist _).subset hd
      · exact (List.dropWhile_sublist _).subset ((List.tail_sublist _).subset (ih hw))
    · rwa [List.mem_singleton.1 hw] at hd

lemma splitUpTo_one {c : Char} {s : Text} (h : c ∈ s) :
    splitUpTo c 1 s = [s.takeWhile (· ≠ c), (s.dropWhile (· ≠ c)).tail] := by
  rw [splitUpTo, if_pos h, splitUpTo]

lemma quoted_eq_ok {argument needed args : Text} (h : quoted argument = .ok (needed, args)) :
    ∃ pre, splitUpTo '\x27' 2 argument = [pre, needed, args] := by
  unfold quoted at h
  split at h
  · next pre needed' args' hs =>
    cases h
    exact ⟨pre, hs⟩
  · cases h

lemma contains_singleton {c : Char} {s : Text} : contains s [c] = true ↔ c ∈ s := by
  unfold contains
  simp only [List.any_eq_true, List.mem_tails, List.isPrefixOf_iff_prefix]
  constructor
  · rintro ⟨t, ht, hp⟩
    exact ht.subset (hp.subset List.mem_cons_self)
  · intro h
    obtain ⟨l, r, rfl⟩ := List.append_of_mem h
    exact ⟨c :: r, List.suffix_append _ _, by simp⟩

/-! ### Unbroken lines -/

lemma newline_notMem_escape (a : Text) : '\n' ∉ VpnProfile.openVpnEscape a := by
  have hchars : '\n' ∉ VpnProfile.escapeChars a := by
    rw [LineParser.escapeChars_eq]
    intro h
    obtain ⟨c, -, hc⟩ := List.mem_flatMap.1 h
    unfold LineParser.escapeChar at hc
    split_ifs at hc with h1 h2 h3
    · simp at hc
    · simp at hc
    · simp at hc
    · exact h3 (List.mem_singleton.1 hc).symm
  unfold VpnProfile.openVpnEscape
  simp only
  split_ifs with h
  · rwa [h.1] at hchars
  · simp [hchars]

lemma newline_notMem_username (name : Option Text) :
    '\n' ∉ Session.textOf (name.map VpnProfile.openVpnEscape) := by
  cases name with
  | none => decide
  | some name => exact newline_notMem_escape name

/-- A name that is quoted in a line, with what is written around it. -/
lemma whole_quoted {word needed rest : Text} (hw : '\n' ∉ word) (hn : '\n' ∉ needed)
    (hr : '\n' ∉ rest) : '\n' ∉ word ++ needed ++ "' ".toList ++ rest := by
  simp only [List.mem_append, not_or]
  exact ⟨⟨⟨hw, hn⟩, by decide⟩, hr⟩

lemma quoted_line {argument needed args : Text} (h : quoted argument = .ok (needed, args))
    (ha : '\n' ∉ argument) : '\n' ∉ needed := by
  obtain ⟨pre, hparts⟩ := quoted_eq_ok h
  have hmem : needed ∈ splitUpTo '\x27' 2 argument := by simp [hparts]
  exact fun hm => ha (mem_of_mem_splitUpTo hmem hm)

/-! ### What a command writes -/

/-- From `s` to `s'` the descriptors `fds` arrived, the passwords `set` were entered, and neither
comes from anywhere else. -/
structure Keeps (s s' : Session) (fds : List FileDescriptor) (set : List Entry) : Prop where
  fds : s'.closed ++ s'.mFDList = s.closed ++ s.mFDList ++ fds
  mProfile : s'.mProfile = s.mProfile
  cache : ∀ type, slot type s'.passwordCache ⊆ slot type s.passwordCache ++ set

namespace Keeps

variable {s t u : Session} {fds fds' : List FileDescriptor} {set set' : List Entry}

lemma of_eq (hf : t.closed ++ t.mFDList = s.closed ++ s.mFDList) (hm : t.mProfile = s.mProfile)
    (hc : t.passwordCache = s.passwordCache) : Keeps s t [] [] :=
  ⟨by simpa using hf, hm, fun type => by simp [hc]⟩

lemma trans (h : Keeps s t fds set) (h' : Keeps t u fds' set') :
    Keeps s u (fds ++ fds') (set ++ set') where
  fds := by rw [h'.fds, h.fds, List.append_assoc (_ ++ _)]
  mProfile := h'.mProfile.trans h.mProfile
  cache type e he := by
    rcases List.mem_append.1 (h'.cache type he) with ht | ht
    · rcases List.mem_append.1 (h.cache type ht) with hs | hs
      · exact List.mem_append_left _ hs
      · exact List.mem_append_right _ (List.mem_append_left _ hs)
    · exact List.mem_append_right _ (List.mem_append_right _ ht)

end Keeps

/-- From `s` to `s'` the replies are written, if the socket is open. -/
structure Does (s s' : Session) (rs : List Reply) : Prop where
  mSocket : s'.phone.thread.mSocket = s.phone.thread.mSocket
  output : s'.output =
    s.output ++ if s.phone.thread.mSocket then rs.flatMap Reply.text else []
  keeps : Keeps s s' [] []

namespace Does

variable {m : Moment} {s t u : Session} {rs rs' : List Reply} {argument needed extra : Text}

lemma of_phone (hp : t.phone = s.phone) (hk : Keeps s t [] []) : Does s t [] :=
  ⟨by rw [hp], by simp [Session.output, hp], hk⟩

lemma refl (s : Session) : Does s s [] := of_phone rfl (.of_eq rfl rfl rfl)

lemma trans (h : Does s t rs) (h' : Does t u rs') : Does s u (rs ++ rs') := by
  refine ⟨h'.mSocket.trans h.mSocket, ?_, h.keeps.trans h'.keeps⟩
  rw [h'.output, h.output, h.mSocket]
  split_ifs
  · rw [List.flatMap_append, List.append_assoc]
  · simp

/-- A reply is written. -/
lemma write {cmd : Text} {r : Reply} (h : Does s t rs) (hr : cmd = r.text) :
    Does s (t.managmentCommand cmd) (rs ++ [r]) := by
  refine h.trans ⟨?_, ?_, .of_eq rfl rfl rfl⟩
  · simp [Session.managmentCommand]
  · unfold Session.managmentCommand Phone.managmentCommand Session.output
    split_ifs
    · simp [hr]
    · simp

lemma tell {message : Message} (h : Does s t rs) : Does s (t.tell message) rs := by
  simpa using h.trans (of_phone (t := t.tell message) rfl (.of_eq rfl rfl rfl))

lemma log {level : LogCache.LogLevel} {message : Text} (h : Does s t rs) :
    Does s (t.log m level message) rs :=
  h.tell

/-- The first descriptor is taken. -/
lemma protectFileDescriptor {fd : FileDescriptor} (hs : s.mFDList.head? = some fd) :
    Does s (({ s with mFDList := s.mFDList.tail } : Session).protectFileDescriptor m fd) [] := by
  obtain ⟨fds, hfds⟩ : ∃ fds, s.mFDList = fd :: fds := List.head?_eq_some_iff.1 hs
  unfold Session.protectFileDescriptor
  simp only
  split_ifs
  · exact of_phone rfl (.of_eq (by simp [hfds]) rfl rfl)
  · exact of_phone rfl (.of_eq (by simp [hfds, Session.log, Session.tell]) rfl rfl)

lemma protectFirst : Does s (s.protectFirst m) [] := by
  unfold Session.protectFirst Session.pollFirst
  cases hs : s.mFDList.head? with
  | some fd => exact protectFileDescriptor hs
  | none =>
    have hnil : s.mFDList = [] := List.head?_eq_none_iff.1 hs
    exact of_phone rfl (.of_eq (by simp [hnil, Session.tell]) rfl rfl)

lemma set {setting : Tun.Setting} (h : s.set m setting = .ok t) : Does s t [] := by
  obtain ⟨service, -, h⟩ := bind_eq_ok.1 h
  cases h
  exact of_phone rfl (.of_eq rfl rfl rfl)

lemma processRoute (h : s.processRoute m argument extra = .ok t) : Does s t [] := by
  unfold Session.processRoute at h
  split at h
  · exact set h
  · exact set h
  · cases h
    exact (refl s).log

lemma processRoute6 (h : s.processRoute6 m extra = .ok t) : Does s t [] := by
  obtain ⟨_, -, h⟩ := bind_eq_ok.1 h
  obtain ⟨_, -, h⟩ := bind_eq_ok.1 h
  exact set h

lemma processIfconfig (h : s.processIfconfig m extra = .ok t) : Does s t [] := by
  unfold Session.processIfconfig at h
  simp only [bind_eq_ok] at h
  obtain ⟨_, -, _, -, _, -, _, -, _, -, h⟩ := h
  exact set h

lemma needok_text (needed status : Text) :
    needok needed status = (Reply.needok needed status).text :=
  (List.append_nil _).symm

lemma sendTunFD {sent : Bool} (h : s.sendTunFD m needed extra = .ok (t, sent)) :
    Does s t (if sent then [.needok needed "ok".toList] else []) := by
  unfold Session.sendTunFD at h
  by_cases he : extra ≠ "tun".toList
  · rw [if_pos he] at h
    cases h
    exact (refl s).log
  · rw [if_neg he] at h
    obtain ⟨⟨service, opened⟩, -, h⟩ := bind_eq_ok.1 h
    simp only at h
    split_ifs at h
    · cases h
      exact (of_phone (s := s) (t := { s with
        mOpenVPNService := service, tuns := s.tuns ++ opened.established.toList })
        rfl (.of_eq rfl rfl rfl)).write
          (needok_text _ _)
    · cases h
      exact of_phone rfl (.of_eq rfl rfl rfl)
    · cases h
      exact of_phone rfl (.of_eq rfl rfl rfl)

/-- What is needed is done, and the answer is sent or still to be sent. -/
lemma meet {n : Need} {status : Option Text} (h : s.meet m argument needed extra n = .ok (t, status)) :
    (∃ st, status = some st ∧ '\n' ∉ st ∧ Does s t []) ∨
      status = none ∧ Does s t [.needok needed "ok".toList] := by
  have hok : '\n' ∉ "ok".toList := by decide
  cases n with
  | protectfd =>
    cases h
    exact .inl ⟨_, rfl, hok, protectFirst⟩
  | dnsserver =>
    obtain ⟨t', ht, h⟩ := bind_eq_ok.1 h
    cases h
    exact .inl ⟨_, rfl, hok, set ht⟩
  | dns6server =>
    obtain ⟨t', ht, h⟩ := bind_eq_ok.1 h
    cases h
    exact .inl ⟨_, rfl, hok, set ht⟩
  | dnsdomain =>
    obtain ⟨t', ht, h⟩ := bind_eq_ok.1 h
    cases h
    exact .inl ⟨_, rfl, hok, set ht⟩
  | route =>
    obtain ⟨t', ht, h⟩ := bind_eq_ok.1 h
    cases h
    exact .inl ⟨_, rfl, hok, processRoute ht⟩
  | route6 =>
    obtain ⟨t', ht, h⟩ := bind_eq_ok.1 h
    cases h
    exact .inl ⟨_, rfl, hok, processRoute6 ht⟩
  | ifconfig =>
    obtain ⟨t', ht, h⟩ := bind_eq_ok.1 h
    cases h
    exact .inl ⟨_, rfl, hok, processIfconfig ht⟩
  | ifconfig6 =>
    obtain ⟨t', ht, h⟩ := bind_eq_ok.1 h
    cases h
    exact .inl ⟨_, rfl, hok, set ht⟩
  | persistTunAction =>
    cases h
    refine .inl ⟨_, rfl, ?_, refl s⟩
    unfold Tun.Service.getTunReopenStatus
    split_ifs
    · decide
    · decide
    · decide
  | opentun =>
    obtain ⟨⟨t', sent⟩, ht, h⟩ := bind_eq_ok.1 h
    have hsent := sendTunFD ht
    cases sent with
    | true =>
      cases h
      exact .inr ⟨rfl, hsent⟩
    | false =>
      cases h
      exact .inl ⟨_, rfl, by decide, hsent⟩

end Does

/-- **A query is answered once**, with the name it asked for. -/
lemma processNeedCommand_does {m : Moment} {s t : Session} {argument : Text}
    (h : s.processNeedCommand m argument = .ok t) : ∃ rs, Does s t rs ∧
      rs.filterMap Reply.answers = (queryOf argument).toList ∧ rs.filterMap Reply.secret = [] ∧
        ('\n' ∉ argument → ∀ r ∈ rs, r.Whole) := by
  unfold Session.processNeedCommand at h
  obtain ⟨⟨needed, args⟩, hq, h⟩ := bind_eq_ok.1 h
  obtain ⟨extra, -, h⟩ := bind_eq_ok.1 h
  have hline (st : Text) (hst : '\n' ∉ st) (ha : '\n' ∉ argument) :
      ∀ r ∈ [Reply.needok needed st], r.Whole := by
    intro r hr l hl
    obtain rfl := List.mem_singleton.1 hr
    obtain rfl := List.mem_singleton.1 hl
    exact whole_quoted (by decide) (quoted_line hq ha) hst
  have hquery : queryOf argument = if (Need.ofName needed).isSome then some needed else none := by
    simp [queryOf, hq, Except.toOption, Option.filter]
  cases hn : Need.ofName needed with
  | none =>
    simp only [hn] at h
    cases h
    exact ⟨[], .refl s, by simp [hquery, hn], rfl, by simp⟩
  | some n =>
    simp only [hn] at h
    obtain ⟨⟨t', status⟩, ht, h⟩ := bind_eq_ok.1 h
    rcases Does.meet ht with ⟨st, rfl, hst, hdoes⟩ | ⟨rfl, hdoes⟩
    · cases h
      exact ⟨[.needok needed st], hdoes.write (Does.needok_text _ _), by simp [hquery, hn, Reply.answers],
        rfl, hline st hst⟩
    · cases h
      exact ⟨[.needok needed "ok".toList], hdoes, by simp [hquery, hn, Reply.answers], rfl,
        hline _ (by decide)⟩

/-- A password that is taken out of the cache was in it. -/
lemma keeps_getKey (s : Session) : Keeps s { s with
    passwordCache := some (s.mProfile.getPasswordPrivateKey s.passwordCache).2 } [] [] :=
  ⟨by simp, rfl, fun _ =>
    List.Subset.trans (cached_getPasswordPrivateKey s.mProfile) (List.subset_append_left _ _)⟩

lemma keeps_getAuth (s : Session) : Keeps s { s with
    passwordCache := some (s.mProfile.getPasswordAuth s.passwordCache).2 } [] [] :=
  ⟨by simp, rfl, fun _ =>
    List.Subset.trans (cached_getPasswordAuth s.mProfile) (List.subset_append_left _ _)⟩

/-- The search for a password may give the user name away. -/
lemma findPassword_does {s t : Session} {needed : Text} {pw : Option Text}
    (h : s.findPassword needed = (t, pw)) : ∃ rs, Does s t rs ∧
      rs.filterMap Reply.answers = [] ∧ rs.filterMap Reply.secret = [] ∧
        ('\n' ∉ needed → ∀ r ∈ rs, r.Whole) := by
  unfold Session.findPassword at h
  split_ifs at h
  · cases h
    exact ⟨[], .of_phone rfl (keeps_getKey s), rfl, rfl, by simp⟩
  · cases h
    refine ⟨[.username needed s.mProfile.mUsername], ?_, rfl, rfl, fun hn r hr l hl => ?_⟩
    · exact (Does.of_phone (s := s) (t := { s with
        passwordCache := some (s.mProfile.getPasswordAuth s.passwordCache).2 }) rfl
          (keeps_getAuth s)).write
          (List.append_nil _).symm
    · obtain rfl := List.mem_singleton.1 hr
      obtain rfl := List.mem_singleton.1 hl
      exact whole_quoted (by decide) hn (newline_notMem_username _)
  · cases h
    exact ⟨[], .refl s, rfl, rfl, by simp⟩

/-- **A password is given away only when it is asked for**, and for what it is asked for. -/
lemma processPWCommand_does (m : Moment) (s : Session) (argument : Text) :
    ∃ rs, Does s (s.processPWCommand m argument) rs ∧ rs.filterMap Reply.answers = [] ∧
      ((rs.filterMap Reply.secret).map Prod.fst).Sublist (promptOf argument).toList ∧
        (∀ x ∈ rs.filterMap Reply.secret, (s.findPassword x.1).2 = some x.2) ∧
          ('\n' ∉ argument → ∀ r ∈ rs, r.Whole) := by
  unfold Session.processPWCommand promptOf
  cases hq : quoted argument with
  | error e => exact ⟨[], (Does.refl s).log, rfl, List.nil_sublist _, by simp, by simp⟩
  | ok q =>
    obtain ⟨needed, args⟩ := q
    simp only
    split_ifs with hv
    · exact ⟨[], (Does.refl s).tell, rfl, List.nil_sublist _, by simp, by simp⟩
    · cases hf : s.findPassword needed with
      | mk t pw =>
        obtain ⟨rs, hdoes, ha, hs, hw⟩ := findPassword_does hf
        cases pw with
        | none =>
          refine ⟨rs, ?_, ha, ?_, by simp [hs], fun hl => hw (quoted_line hq hl)⟩
          · unfold Session.requestInputFromUser
            exact hdoes.tell.log
          · rw [hs]
            exact List.nil_sublist _
        | some pw =>
          have hsecret : (rs ++ [Reply.password needed pw]).filterMap Reply.secret =
              [(needed, pw)] := by
            rw [List.filterMap_append, hs]
            rfl
          refine ⟨rs ++ [.password needed pw], hdoes.write (List.append_nil _).symm, ?_, ?_, ?_, ?_⟩
          · rw [List.filterMap_append, ha]
            rfl
          · rw [hsecret]
            exact .refl _
          · intro x hx
            rw [hsecret] at hx
            obtain rfl := List.mem_singleton.1 hx
            rw [hf]
          · intro hl r hr
            have hn := quoted_line hq hl
            rcases List.mem_append.1 hr with hr | hr
            · exact hw hn r hr
            · obtain rfl := List.mem_singleton.1 hr
              intro l hl
              obtain rfl := List.mem_singleton.1 hl
              exact whole_quoted (by decide) hn (newline_notMem_escape pw)

/-! ### The transcript of a run -/

/-- The replies `rs` are what was written to the socket while the lines `cs` arrived. A password
that is given away, and what for, meets `P`. -/
structure Transcript (P : Text → Text → Prop) (s s' : Session) (cs : List Text)
    (rs : List Reply) : Prop where
  output : s'.output = s.output ++ rs.flatMap Reply.text
  whole : ∀ r ∈ rs, r.Whole
  /-- The queries are answered in turn, as long as the socket is open. -/
  answers : rs.filterMap Reply.answers <+: cs.filterMap asked
  all : s'.phone.thread.mSocket = true → s.phone.thread.mSocket = true ∧
    rs.filterMap Reply.answers = cs.filterMap asked
  secrets : ((rs.filterMap Reply.secret).map Prod.fst).Sublist (cs.filterMap prompted)
  owned : ∀ x ∈ rs.filterMap Reply.secret, P x.1 x.2
  silent : s.phone.thread.mSocket = false → rs = []

variable {m : Moment} {s t u : Session} {cs cs' : List Text} {rs rs' : List Reply}
  {P : Text → Text → Prop}

namespace Transcript

lemma of_phone (h : t.phone = s.phone) : Transcript P s t [] [] :=
  ⟨by simp [Session.output, h], by simp, List.prefix_rfl, fun hs => ⟨h ▸ hs, rfl⟩, .refl _, by simp,
    fun _ => rfl⟩

lemma trans (h : Transcript P s t cs rs) (h' : Transcript P t u cs' rs') :
    Transcript P s u (cs ++ cs') (rs ++ rs') where
  output := by rw [h'.output, h.output, List.flatMap_append, List.append_assoc]
  whole r hr := (List.mem_append.1 hr).elim (h.whole r) (h'.whole r)
  answers := by
    rw [List.filterMap_append, List.filterMap_append]
    rcases Bool.eq_false_or_eq_true t.phone.thread.mSocket with ht | ht
    · rw [(h.all ht).2]
      exact (List.prefix_append_right_inj _).2 h'.answers
    · rw [h'.silent ht]
      exact (by simpa using h.answers : _ <+: _).trans (List.prefix_append _ _)
  all hu := by
    obtain ⟨ht, ha'⟩ := h'.all hu
    obtain ⟨hs, ha⟩ := h.all ht
    exact ⟨hs, by rw [List.filterMap_append, List.filterMap_append, ha, ha']⟩
  secrets := by
    rw [List.filterMap_append, List.filterMap_append, List.map_append]
    exact h.secrets.append h'.secrets
  owned x hx := by
    rw [List.filterMap_append] at hx
    exact (List.mem_append.1 hx).elim (h.owned x) (h'.owned x)
  silent hs := by
    have hrs := h.silent hs
    have ht : t.phone.thread.mSocket = false := Bool.eq_false_iff.2 fun ht =>
      absurd (h.all ht).1 (by simp [hs])
    rw [hrs, h'.silent ht, List.append_nil]

end Transcript

/-- A line is dealt with: there is a transcript, and nothing else arrived. -/
def Deals (P : Text → Text → Prop) (s t : Session) (cs : List Text) : Prop :=
  (∃ rs, Transcript P s t cs rs) ∧ Keeps s t [] []

/-- The replies to one line make a transcript. -/
lemma Does.deals (h : Does s t rs) (hw : ∀ r ∈ rs, r.Whole)
    (ha : rs.filterMap Reply.answers = cs.filterMap asked)
    (hs : ((rs.filterMap Reply.secret).map Prod.fst).Sublist (cs.filterMap prompted))
    (hP : ∀ x ∈ rs.filterMap Reply.secret, P x.1 x.2) : Deals P s t cs := by
  refine ⟨?_, h.keeps⟩
  rcases Bool.eq_false_or_eq_true s.phone.thread.mSocket with hopen | hopen
  · refine ⟨rs, ?_, hw, ha ▸ List.prefix_rfl, fun _ => ⟨hopen, ha⟩, hs, hP, fun hc => ?_⟩
    · rw [h.output, if_pos hopen]
    · rw [hopen] at hc
      cases hc
  · refine ⟨[], ?_, by simp, List.nil_prefix, fun ht => ?_, List.nil_sublist _, by simp, fun _ => rfl⟩
    · rw [h.output, if_neg (by simp [hopen])]
      rfl
    · rw [h.mSocket, hopen] at ht
      cases ht

/-- A line that asks for nothing. -/
lemma Does.quiet (h : Does s t []) {command : Text} (ha : asked command = none) :
    Deals P s t [command] :=
  h.deals (by simp) (by simp [ha]) (List.nil_sublist _) (by simp)

@[simp] lemma output_managmentCommand (cmd : Text) : (s.managmentCommand cmd).output =
    s.output ++ if s.phone.thread.mSocket then cmd else [] := by
  unfold Session.managmentCommand Phone.managmentCommand Session.output
  split_ifs
  · simp
  · simp

@[simp] lemma mSocket_managmentCommand (cmd : Text) :
    (s.managmentCommand cmd).phone.thread.mSocket = s.phone.thread.mSocket := by
  simp [Session.managmentCommand]

def sigint : Reply := .plain "signal SIGINT".toList

lemma sigint_whole : sigint.Whole := by
  intro l hl
  obtain rfl := List.mem_singleton.1 hl
  decide

/-- The VPN is stopped, with a last command. -/
lemma Does.stop (h : Does s t rs) (hw : ∀ r ∈ rs, r.Whole)
    (ha : rs.filterMap Reply.answers = []) (hs : rs.filterMap Reply.secret = []) :
    Deals P s t.stopOpenVPN cs := by
  have hout : t.stopOpenVPN.output = s.output ++
      if s.phone.thread.mSocket then (rs ++ [sigint]).flatMap Reply.text else [] := by
    have hlast : t.stopOpenVPN.output = (t.managmentCommand sigint.text).output := rfl
    rw [hlast, output_managmentCommand, h.output, h.mSocket]
    split_ifs
    · simp
    · simp
  have hclosed : t.stopOpenVPN.phone.thread.mSocket ≠ true := Bool.false_ne_true
  have hkeeps : Keeps s t.stopOpenVPN [] [] :=
    h.keeps.trans (.of_eq rfl rfl rfl : Keeps t t.stopOpenVPN [] [])
  refine ⟨?_, hkeeps⟩
  rcases Bool.eq_false_or_eq_true s.phone.thread.mSocket with hopen | hopen
  · have hsecret : (rs ++ [sigint]).filterMap Reply.secret = [] := by
      rw [List.filterMap_append, hs]
      rfl
    refine ⟨rs ++ [sigint], ?_, fun r hr => ?_, ?_, fun ht => absurd ht hclosed, ?_, by simp [hsecret],
      fun hc => ?_⟩
    · rw [hout, if_pos hopen]
    · rcases List.mem_append.1 hr with hr | hr
      · exact hw r hr
      · exact List.mem_singleton.1 hr ▸ sigint_whole
    · rw [List.filterMap_append, ha]
      exact List.nil_prefix
    · rw [hsecret]
      exact List.nil_sublist _
    · rw [hopen] at hc
      cases hc
  · refine ⟨[], ?_, by simp, List.nil_prefix, fun ht => absurd ht hclosed, List.nil_sublist _, by simp,
      fun _ => rfl⟩
    rw [hout, if_neg (by simp [hopen])]
    rfl

/-- A signature is sent in three pieces, or OpenVPN is stopped. -/
lemma processSignCommand_deals {b64data command : Text} (ha : asked command = none)
    (h : s.processSignCommand m b64data = .ok t) : Deals P s t [command] := by
  have hdoes (signed : Text) : Does s (((s.managmentCommand "rsa-sig\n".toList).managmentCommand
      signed).managmentCommand "\nEND\n".toList) [.rsaSig signed] := by
    refine ⟨by simp, ?_, .of_eq rfl rfl rfl⟩
    simp only [output_managmentCommand, mSocket_managmentCommand]
    split_ifs
    · simp only [Reply.text, Reply.lines, List.flatMap_cons,
        List.append_assoc]
      rfl
    · simp
  have hwhole {signed : Text} (hs : '\n' ∉ signed) : ∀ r ∈ [Reply.rsaSig signed], r.Whole := by
    intro r hr
    obtain rfl := List.mem_singleton.1 hr
    intro l hl
    simp only [Reply.lines, List.mem_cons, List.not_mem_nil, or_false] at hl
    rcases hl with rfl | rfl | rfl
    · decide
    · exact hs
    · decide
  unfold Session.processSignCommand at h
  obtain ⟨signed, hsigned, h⟩ := bind_eq_ok.1 h
  cases signed with
  | some signed =>
    cases h
    exact (hdoes signed).deals (hwhole (m.signature_line _ _ hsigned))
      (by simp [ha, Reply.answers]) (List.nil_sublist _) (by simp [Reply.secret])
  | none =>
    cases h
    -- an empty signature is written in two pieces
    have hempty : Does s ((s.managmentCommand "rsa-sig\n".toList).managmentCommand
        "\nEND\n".toList) [.rsaSig []] := by
      refine ⟨by simp, ?_, .of_eq rfl rfl rfl⟩
      simp only [output_managmentCommand, mSocket_managmentCommand]
      split_ifs
      · simp only [Reply.text, Reply.lines, List.flatMap_cons,
          List.append_assoc]
        rfl
      · simp
    exact hempty.stop (hwhole (by simp)) rfl rfl

lemma processProxyCMD_does (m : Moment) (s : Session) (argument : Text) :
    ∃ cmd, Does s (s.processProxyCMD m argument) [.plain cmd] ∧ '\n' ∉ cmd := by
  unfold Session.processProxyCMD
  simp only
  split
  · next host port hp =>
    have hhost : '\n' ∉ host := by
      split_ifs at hp
      exact m.proxy_line _ hp
    refine ⟨"proxy HTTP ".toList ++ host ++ " ".toList ++ showInt port, ?_, ?_⟩
    · exact (Does.refl s).tell.write (List.append_nil _).symm
    · simp only [List.mem_append, not_or]
      exact ⟨⟨⟨by decide, hhost⟩, by decide⟩, other_not_mem_showInt (by decide) (by decide) port⟩
  · exact ⟨"proxy NONE".toList, (Does.refl s).write rfl, by decide⟩

lemma processByteCount_tells {argument : Text} (h : s.processByteCount argument = .ok t) :
    ∃ message, t = s.tell message := by
  unfold Session.processByteCount at h
  split at h
  · obtain ⟨_, -, h⟩ := bind_eq_ok.1 h
    obtain ⟨_, -, h⟩ := bind_eq_ok.1 h
    cases h
    exact ⟨_, rfl⟩
  · cases h

lemma processState_tells {argument : Text} (h : s.processState argument = .ok t) :
    ∃ message, t = s.tell message := by
  obtain ⟨_, -, h⟩ := bind_eq_ok.1 h
  obtain ⟨_, -, h⟩ := bind_eq_ok.1 h
  cases h
  exact ⟨_, rfl⟩

lemma processLogMessage_tells {argument : Text} (h : s.processLogMessage m argument = .ok t) :
    ∃ message, t = s.tell message := by
  unfold Session.processLogMessage at h
  simp only [bind_eq_ok] at h
  obtain ⟨_, -, _, -, _, -, _, -, h⟩ := h
  cases h
  exact ⟨_, rfl⟩

lemma handleHold_does {argument : Text} (h : s.handleHold m argument = .ok t) : Does s t [] := by
  unfold Session.handleHold at h
  obtain ⟨wait, -, h⟩ := bind_eq_ok.1 h
  obtain ⟨waittime, -, h⟩ := bind_eq_ok.1 h
  have hhold : Does s { s with phone := s.phone.handleHold waittime } [] := by
    refine ⟨?_, ?_, .of_eq rfl rfl rfl⟩
    · unfold Phone.handleHold
      simp only
      split_ifs
      · rfl
      · rfl
    · unfold Phone.handleHold Session.output
      simp only
      split_ifs
      · simp
      · simp
      · simp
      · simp
  simp only at h
  split_ifs at h
  · cases h
    exact hhold.tell.tell
  · cases h
    exact hhold.tell.tell
  · cases h
    exact hhold.tell
  · cases h
    exact hhold.tell
  · cases h
    exact hhold.tell

/-! ### Lines -/

/-- A line is a notice of a kind, or it says nothing that is answered. -/
lemma processCommand_cases {command : Text} (h : s.processCommand m command = .ok t) :
    (∃ n argument, noticeOf command = some (n, argument) ∧
      s.processNotice m argument n = .ok t) ∨
    noticeOf command = none ∧ Does s t [] := by
  unfold Session.processCommand at h
  by_cases hn : startsWith command ">".toList = true ∧ ':' ∈ command
  · have hc : startsWith command ">".toList = true ∧ contains command ":".toList = true :=
      ⟨hn.1, contains_singleton.2 hn.2⟩
    have hcmd : substring (command.takeWhile (· ≠ ':')) 1 =
        .ok ((command.takeWhile (· ≠ ':')).drop 1) := by
      obtain ⟨r, rfl⟩ : ∃ r, command = '>' :: r := by
        obtain ⟨r, hr⟩ := List.isPrefixOf_iff_prefix.1 hn.1
        exact ⟨r, hr.symm⟩
      exact if_pos (by simp)
    simp only [if_pos hc, splitUpTo_one hn.2] at h
    obtain ⟨part, hpart, h⟩ := bind_eq_ok.1 h
    cases hpart
    obtain ⟨cmd, hsub, h⟩ := bind_eq_ok.1 h
    obtain rfl := Except.ok.inj (hcmd.symm.trans hsub)
    obtain ⟨argument, harg, h⟩ := bind_eq_ok.1 h
    cases harg
    unfold noticeOf
    rw [if_pos hn]
    cases hname : Notice.ofName ((command.takeWhile (· ≠ ':')).drop 1) with
    | some n =>
      simp only [hname] at h
      exact .inl ⟨n, _, rfl, h⟩
    | none =>
      simp only [hname] at h
      cases h
      exact .inr ⟨rfl, (Does.refl s).log⟩
  · have hc : ¬ (startsWith command ">".toList = true ∧ contains command ":".toList = true) :=
      fun hc => hn ⟨hc.1, contains_singleton.1 hc.2⟩
    rw [if_neg hc] at h
    unfold noticeOf
    rw [if_neg hn]
    refine .inr ⟨rfl, ?_⟩
    split_ifs at h
    · cases h
      exact .refl s
    · unfold Session.pollFirst at h
      cases hs : s.mFDList.head? with
      | some fd =>
        simp only [hs] at h
        cases h
        exact .protectFileDescriptor hs
      | none =>
        simp only [hs] at h
        cases h
        have hnil : s.mFDList = [] := List.head?_eq_none_iff.1 hs
        exact .of_phone rfl (.of_eq (by simp [hnil]) rfl rfl)
    · cases h
      exact (Does.refl s).log

lemma noticeOf_line {command argument : Text} {n : Notice}
    (h : noticeOf command = some (n, argument)) (hc : '\n' ∉ command) : '\n' ∉ argument := by
  unfold noticeOf at h
  split_ifs at h
  obtain ⟨n', -, he⟩ := Option.map_eq_some_iff.1 h
  cases he
  exact fun hm => hc ((List.dropWhile_sublist _).subset ((List.tail_sublist _).subset hm))

/-- **One line**: what it asks for is answered, and nothing else is. -/
lemma processCommand_deals {command : Text} (h : s.processCommand m command = .ok t)
    (hc : '\n' ∉ command) (hP : ∀ needed pw, (s.findPassword needed).2 = some pw → P needed pw) :
    Deals P s t [command] := by
  rcases processCommand_cases h with ⟨n, argument, hn, h⟩ | ⟨hn, hdoes⟩
  · have hline := noticeOf_line hn hc
    have hasked : asked command = if n = .needOk then queryOf argument else none := by
      simp [asked, hn]
    have hprompted : prompted command = if n = .password then promptOf argument else none := by
      simp [prompted, hn]
    cases n with
    | needOk =>
      obtain ⟨rs, hdoes, ha, hs, hw⟩ := processNeedCommand_does h
      refine hdoes.deals (hw hline) ?_ (by simp [hs]) (by simp [hs])
      rw [ha, List.filterMap_cons, hasked, if_pos rfl]
      cases queryOf argument <;> rfl
    | password =>
      cases h
      obtain ⟨rs, hdoes, ha, hs, ho, hw⟩ := processPWCommand_does m s argument
      refine hdoes.deals (hw hline) (by simp [ha, hasked]) (hs.trans ?_) fun x hx => hP _ _ (ho x hx)
      rw [List.filterMap_cons, hprompted, if_pos rfl]
      cases promptOf argument <;> exact .refl _
    | info =>
      cases h
      exact (Does.refl s).quiet hasked
    | hold => exact (handleHold_does h).quiet hasked
    | bytecount =>
      obtain ⟨message, rfl⟩ := processByteCount_tells h
      exact (Does.refl s).tell.quiet hasked
    | state =>
      change (if s.mShuttingDown then .ok s else s.processState argument) = Except.ok t at h
      split_ifs at h
      · cases h
        exact (Does.refl s).quiet hasked
      · obtain ⟨message, rfl⟩ := processState_tells h
        exact (Does.refl s).tell.quiet hasked
    | proxy =>
      cases h
      obtain ⟨cmd, hdoes, hcmd⟩ := processProxyCMD_does m s argument
      refine hdoes.deals (fun r hr l hl => ?_) (by simp [hasked, Reply.answers])
        (List.nil_sublist _) (by simp [Reply.secret])
      obtain rfl := List.mem_singleton.1 hr
      obtain rfl := List.mem_singleton.1 hl
      exact hcmd
    | log =>
      obtain ⟨message, rfl⟩ := processLogMessage_tells h
      exact (Does.refl s).tell.quiet hasked
    | rsaSign => exact processSignCommand_deals hasked h
  · exact hdoes.quiet (by simp [asked, hn])

/-! ### Runs -/

/-- The line that arrives. -/
def Event.line : Event → Option Text
  | .command _ line => some line
  | _ => none

/-- The descriptors that arrive. -/
def Event.fds : Event → List FileDescriptor
  | .receive fds => fds
  | _ => []

/-- The passwords that are entered. -/
def Event.entries : Event → List Entry
  | .setCachedPassword uuid type password => Passwords.entries uuid type password
  | _ => []

/-- The thread's socket is connected once, before any of this, and a line has no line end. -/
def Event.Follows : Event → Prop
  | .command _ line => '\n' ∉ line
  | .device _ event => event ≠ .accept
  | _ => True

/-- The commands of the receiver are replies of their own. -/
lemma deviceCommands_text {cmds : List Text} (h : ∀ c ∈ cmds, c ∈ deviceCommands) :
    ∃ rs : List Reply, rs.flatMap Reply.text = cmds.flatten ∧ (∀ r ∈ rs, r.Whole) ∧
      rs.filterMap Reply.answers = [] ∧ rs.filterMap Reply.secret = [] := by
  induction cmds with
  | nil => exact ⟨[], rfl, by simp, rfl, rfl⟩
  | cons c cmds ih =>
    obtain ⟨rs, htext, hw, ha, hs⟩ := ih fun c hc => h c (List.mem_cons_of_mem _ hc)
    have hline : ∃ l, '\n' ∉ l ∧ c = (Reply.plain l).text := by
      have hc := h c List.mem_cons_self
      simp only [deviceCommands, List.mem_cons, List.not_mem_nil, or_false] at hc
      rcases hc with rfl | rfl | rfl | rfl | rfl
      · exact ⟨"hold release".toList, by decide, rfl⟩
      · exact ⟨"bytecount 2".toList, by decide, rfl⟩
      · exact ⟨"state on".toList, by decide, rfl⟩
      · exact ⟨"signal SIGUSR1".toList, by decide, rfl⟩
      · exact ⟨"network-change".toList, by decide, rfl⟩
    obtain ⟨l, hl, rfl⟩ := hline
    refine ⟨.plain l :: rs, ?_, fun r hr => ?_, ha, hs⟩
    · rw [List.flatMap_cons, htext, List.flatten_cons]
    · rcases List.mem_cons.1 hr with rfl | hr
      · intro l' hl'
        exact List.mem_singleton.1 hl' ▸ hl
      · exact hw r hr

lemma Commands.transcript {p : Phone} (h : Commands s.phone p) :
    ∃ rs, Transcript P s { s with phone := p } [] rs := by
  obtain ⟨cmds, hcmds, hwritten, hsilent⟩ := h.written
  have hout : ({ s with phone := p } : Session).output = s.output ++ cmds.flatten := by
    simp only [Session.output, List.flatMap_def]
    exact (congrArg List.flatten hwritten).trans List.flatten_append
  rcases Bool.eq_false_or_eq_true s.phone.thread.mSocket with hopen | hopen
  · obtain ⟨rs, htext, hw, ha, hs⟩ := deviceCommands_text hcmds
    refine ⟨rs, by rw [hout, htext], hw, by simp [ha], fun _ => ⟨hopen, by simp [ha]⟩, by simp [hs],
      by simp [hs], fun hc => ?_⟩
    rw [hopen] at hc
    cases hc
  · rw [hsilent hopen, List.flatten_nil] at hout
    refine ⟨[], by simpa using hout, by simp, List.prefix_rfl, fun hp => ?_, .refl _, by simp,
      fun _ => rfl⟩
    have hp : p.thread.mSocket = true := hp
    rw [h.mSocket, hopen] at hp
    cases hp

/-- **One step** of the thread, whatever happens. -/
lemma next_transcript {e : Event} (h : s.next e = .ok t) (he : e.Follows)
    (hP : ∀ needed pw, (s.findPassword needed).2 = some pw → P needed pw) :
    (∃ rs, Transcript P s t e.line.toList rs) ∧ Keeps s t e.fds e.entries := by
  cases e with
  | receive fds =>
    cases h
    exact ⟨⟨[], .of_phone rfl⟩, by simp [Event.fds], rfl, fun type => List.subset_append_left _ _⟩
  | command m line => exact processCommand_deals h he hP
  | device now event =>
    cases h
    exact ⟨(Commands.handle event he).transcript, .of_eq rfl rfl rfl⟩
  | setCachedPassword uuid type' password =>
    cases h
    refine ⟨⟨[], .of_phone rfl⟩, by simp [Event.fds], rfl, fun type => ?_⟩
    change (setCachedPassword s.passwordCache uuid type' password).cached type ⊆ _
    rw [cached_setCachedPassword]
    split_ifs with ht
    · rw [ht.1]
      exact List.subset_append_right _ _
    · exact List.Subset.trans (cached_getInstance uuid).subset (List.subset_append_left _ _)
  | stopVPN stopSucceed =>
    cases h
    have hstop : Deals P s s.stopOpenVPN [] := (Does.refl s).stop (by simp) rfl rfl
    obtain ⟨⟨rs, hrs⟩, hk⟩ := hstop
    exact ⟨⟨rs, hrs.output, hrs.whole, hrs.answers, hrs.all, hrs.secrets, hrs.owned, hrs.silent⟩,
      hk.fds, hk.mProfile, hk.cache⟩

/-- What OpenVPN reads of whole replies, line by line. -/
lemma splitOn_replies (h : ∀ r ∈ rs, r.Whole) :
    (rs.flatMap Reply.text).splitOn '\n' = rs.flatMap Reply.lines ++ [[]] := by
  have hlines (ls : List Text) (hls : ∀ l ∈ ls, '\n' ∉ l) :
      (ls.flatMap (· ++ ['\n'])).splitOn '\n' = ls ++ [[]] := by
    induction ls with
    | nil => rfl
    | cons l ls ih =>
      rw [List.flatMap_cons, List.append_assoc, List.singleton_append,
        List.splitOn_append_cons_self, List.splitOn_eq_singleton (hls l List.mem_cons_self),
        ih fun l hl => hls l (List.mem_cons_of_mem _ hl)]
      rfl
  have htext : rs.flatMap Reply.text = (rs.flatMap Reply.lines).flatMap (· ++ ['\n']) :=
    List.flatMap_assoc.symm
  rw [htext]
  refine hlines _ fun l hl => ?_
  obtain ⟨r, hr, hl⟩ := List.mem_flatMap.1 hl
  exact h r hr l hl

/-- A password of the profile for what is needed: it is stored in the profile, or it was entered
for it. -/
def Owned (p : Passwords.VpnProfile) (set : List Entry) (needed pw : Text) : Prop :=
  needed = "Private Key".toList ∧ (p.storedKeyPassword = some pw ∨
    ⟨p.mUuid, pcks12OrCertPassword, pw⟩ ∈ set) ∨
  needed = "Auth".toList ∧ (p.mPassword = some pw ∨ ⟨p.mUuid, authPassword, pw⟩ ∈ set)

lemma findPassword_owned {needed pw : Text} {set : List Entry}
    (hset : ∀ type, slot type s.passwordCache ⊆ set)
    (h : (s.findPassword needed).2 = some pw) : Owned s.mProfile set needed pw := by
  unfold Session.findPassword at h
  split_ifs at h with h1 h2
  · exact .inl ⟨h1, (getPasswordPrivateKey_eq_some h).imp id fun he => hset _ he⟩
  · exact .inr ⟨h2, (getPasswordAuth_eq_some h).imp id fun he => hset _ he⟩

/-- The passwords that are cached. -/
def Session.cached (s : Session) : List Entry :=
  slot pcks12OrCertPassword s.passwordCache ++ slot authPassword s.passwordCache

lemma slot_subset_cached (s : Session) (type : ℤ) : slot type s.passwordCache ⊆ s.cached := by
  by_cases h1 : type = pcks12OrCertPassword
  · rw [h1]
    exact List.subset_append_left _ _
  · by_cases h2 : type = authPassword
    · rw [h2]
      exact List.subset_append_right _ _
    · have hnil : slot type s.passwordCache = [] := by
        unfold slot PasswordCache.cached
        cases s.passwordCache with
        | none => rfl
        | some c => simp [h1, h2]
      rw [hnil]
      exact List.nil_subset _

/-- A phone on which nothing fails, and that signs nothing. -/
def anyMoment : Moment where
  now := 0
  device := Tun.anyPhone
  detectProxy := none
  proxy_line := by simp
  getSignedData _ := .ok none
  signature_line := by simp
  protect _ := true
  sendsDescriptors := true
  exceptionItem _ := resourceItem 0 .error 0 []
  usingProxy := 1
  stateWaitconnectretry := 2
  password := 3

/-- A thread to which OpenVPN has connected. -/
def connected : Session where
  phone := { Phone.start with thread := { ManagementThread.new with mSocket := true } }
  mOpenVPNService := .fresh Tun.anyProfile
  mProfile := ⟨"u".toList, .userpass, some "me\nsignal SIGTERM".toList, some "secret".toList, none, none⟩
  passwordCache := none
  mFDList := []
  closed := []
  tuns := []
  mShuttingDown := false
  told := []

/-- Two descriptors arrive, the first one is to be protected; then the password is asked for, which
the user has entered. -/
def askedTwice : List Event :=
  [.receive [7, 8], .command anyMoment ">NEED-OK:Need 'PROTECTFD' confirmation MSG:".toList,
    .setCachedPassword "u".toList authPassword (some "entered".toList),
    .command anyMoment ">PASSWORD:Need 'Auth' username/password".toList]

lemma askedTwice_follows : ∀ e ∈ askedTwice, e.Follows := by
  intro e he
  simp only [askedTwice, List.mem_cons, List.not_mem_nil, or_false] at he
  rcases he with rfl | rfl | rfl | rfl
  · trivial
  · show '\n' ∉ ">NEED-OK:Need 'PROTECTFD' confirmation MSG:".toList
    decide
  · trivial
  · show '\n' ∉ ">PASSWORD:Need 'Auth' username/password".toList
    decide

end BuludTechVPN.Management
