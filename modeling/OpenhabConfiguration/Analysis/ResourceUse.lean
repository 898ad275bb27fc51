import OpenhabConfiguration.Analysis.FirstCall
import OpenhabConfiguration.Model.ResourceUse

/-!
# What `sendFiles` opens and closes

Whatever fails, a first call of `sendFiles` closes its session and its shares, each once and
before what has been opened earlier; the client and the connection stay open. Where no closing
fails, the call is that of `Environment.sendFiles` (`sendFiles_closes`). A closing that fails
adds nothing to what can become of the files: they are left as some call without closings
leaves them (`sendFilesClosing_refines`).
-/

set_option autoImplicit false

namespace OpenhabConfiguration.Analysis

open Frames Model Resources

/-! ## The plain steps -/

section Plain

variable {α β : Type}

/-- Methods that initialise no class can be put together before or after this is known. -/
theorem Starting.ofJava_bind (x : Java α) (f : α → Java β) :
    Starting.ofJava (x >>= f) = Starting.ofJava x >>= fun a => Starting.ofJava (f a) := by
  funext w
  rw [Starting.bind_apply, Starting.ofJava_apply, Starting.ofJava_apply, Java.bind_apply]
  cases x w with
  | none => rfl
  | some r =>
      obtain ⟨_ | a, w'⟩ := r
      · rfl
      · exact (Starting.ofJava_apply (f a) w').symm

/-- What a block asks for before it copies. -/
def shareFor (o : Outcomes) (session : Option Session) (file : ConfigFile) : Java (Option Unit) := do
  let session ← requireNonNull session
  connectShare o session file
  return some ()

/-- A block of `sendFiles` as building, asking for the share and copying. -/
theorem sendFile_eq (o : Outcomes) (session : Option Session) (file : ConfigFile) :
    sendFile o session file = build o file >>= fun built =>
      if built then shareFor o session file >>= fun _ => copy o file else return () := by
  simp only [sendFile, shareFor, bind_assoc, pure_bind]

/-- The four blocks of a first call. -/
def startBlocks (o : Outcomes) (session : Option Session) : Starting Unit :=
  Starting.ofJava (sendBlocks o session ConfigFile.all)

/-- The call behind its authentication, without resources. -/
def plainIn (env : Environment) (o : Outcomes) (session : Option Session) : Starting Bool := do
  env.newBuilders
  startBlocks o session
  return true

/-- A first call behind whose blocks nothing is caught. -/
def plainSend (env : Environment) : Starting Bool := do
  let session ← env.authentication (SmbSendFiles.clinit env)
  plainIn env (env.outcomes (SmbSendFiles.clinit env)) session

/-- A result behind `catch (IOException e) { … return false; }`. -/
def caught : Except Throwable Bool → Except Throwable Bool
  | .error (.exception .io) => .ok false
  | r => r

/-- The handler makes no failure of a success, and no success of a failure. -/
theorem caught_eq_true {r : Except Throwable Bool} : caught r = .ok true ↔ r = .ok true := by
  obtain ((_ | _) | _ | _) | _ := r <;> simp [caught]

/-- The constructors of the builders change no file. -/
theorem newBuilders_result (env : Environment) (w : World) :
    ∃ r jvm, env.newBuilders w = some (r, { w with jvm := jvm }) ∧
      (r = .ok () ∨ r = .error .initializer) := by
  cases hstatics : statics env with
  | none =>
      obtain ⟨jvm, hnone⟩ := newBuilders_of_none env w hstatics
      exact ⟨_, jvm, hnone, .inr rfl⟩
  | some jvm => exact ⟨_, jvm, newBuilders_of_statics env w hstatics, .inl rfl⟩

/-- The authentication catches its own `IOException`. -/
theorem login_ne_io (env : Environment) : login env ≠ .error (.exception .io) := by
  unfold login
  cases env.connect (SmbSendFiles.clinit env).HOST with
  | ioException => simp
  | runtimeException => simp
  | ok =>
      cases (SmbSendFiles.clinit env).PASSWORD with
      | none => simp
      | some password => cases env.authenticate (SmbSendFiles.clinit env) <;> simp

/-- The plain call is the four blocks behind one handler. -/
theorem sendInSession_caught (o : Outcomes) (session : Option Session) (w : World) :
    Starting.ofJava (sendInSession o session) w =
      ((startBlocks o session >>= fun _ => pure true : Starting Bool) w).map fun r =>
        (caught r.1, r.2) := by
  have hblocks : sendInSession o session =
      catchIOException (sendBlocks o session ConfigFile.all >>= fun _ => pure true)
        (pure false) := by
    simp only [sendInSession, ConfigFile.all, sendBlocks, bind_assoc, pure_bind]
  rw [hblocks, Starting.ofJava_apply, catchIOException_apply, Java.bind_apply,
    Starting.bind_apply, startBlocks, Starting.ofJava_apply]
  cases sendBlocks o session ConfigFile.all w with
  | none => rfl
  | some r => obtain ⟨(_ | _) | _, w'⟩ := r <;> rfl

/-- Only the blocks throw an `IOException`, so that it makes no difference to catch it behind
the whole. -/
theorem sendFiles_eq_caught (env : Environment) (w : World) :
    env.sendFiles w = (plainSend env w).map fun r => (caught r.1, r.2) := by
  unfold Environment.sendFiles plainSend plainIn
  rw [Starting.bind_apply, Starting.bind_apply, authentication_eq]
  cases hlogin : login env with
  | error e =>
      have hne : e ≠ .exception .io := fun h => login_ne_io env (h ▸ hlogin)
      cases e with
      | exception e =>
          cases e with
          | io => exact absurd rfl hne
          | nullPointer => rfl
      | runtime => rfl
      | initializer => rfl
  | ok session =>
      obtain ⟨r, jvm, hrun, hr⟩ := newBuilders_result env w
      simp only [Option.bind_some, Starting.bind_apply, hrun]
      rcases hr with rfl | rfl
      · have hblocks := sendInSession_caught (env.outcomes (SmbSendFiles.clinit env)) session
          { w with jvm := jvm }
        rw [Starting.bind_apply] at hblocks
        exact hblocks
      · rfl

end Plain

/-! ## With resources -/

section Blocks

variable {closes : SmbResource → Reply} {o : Outcomes} {session : Option Session}

/-- What the closing of a resource throws. -/
def failure (closes : SmbResource → Reply) (r : SmbResource) : Option Throwable :=
  (closes r).throwable

/-- A block closes the share it has connected to. -/
theorem sendInShare_follows (file : ConfigFile) : Follows (failure closes)
    (sendInShare closes o session file) (Starting.ofJava (sendFile o session file)) := by
  rw [sendFile_eq, Starting.ofJava_bind]
  apply (Follows.lift _).bind
  intro built
  cases built with
  | false => exact Follows.lift (pure ())
  | true =>
      have hblock : Follows (failure closes)
          (tryWith (failure closes) (.share file) (lift (Starting.ofJava (shareFor o session file)))
            fun _ => lift (Starting.ofJava (copy o file)))
          (Starting.ofJava (shareFor o session file >>= fun _ => copy o file)) := by
        rw [Starting.ofJava_bind]
        exact (Follows.lift _).tryWith fun _ => Follows.lift _
      exact hblock

/-- The blocks of a list of files. -/
def sendInShares (closes : SmbResource → Reply) (o : Outcomes) (session : Option Session) :
    List ConfigFile → SmbProgram Unit
  | [] => return ()
  | file :: files => do
      sendInShare closes o session file
      sendInShares closes o session files

/-- So do blocks one after the other. -/
theorem sendInShares_follows (files : List ConfigFile) : Follows (failure closes)
    (sendInShares closes o session files) (Starting.ofJava (sendBlocks o session files)) := by
  induction files with
  | nil => exact Follows.lift (pure ())
  | cons file files ih =>
      rw [sendBlocks, Starting.ofJava_bind]
      exact (sendInShare_follows file).bind fun _ => ih

end Blocks

section Call

variable (env : Environment) (closes : SmbResource → Reply)

/-- What the authentication opens for good. -/
def keptOpen : List (Usage SmbResource) :=
  .opened .client ::
    if env.connect (SmbSendFiles.clinit env).HOST = .ok then [.opened .connection] else []

/-- The block of the session. -/
def inSession (session : Option Session) : SmbProgram Bool := do
  lift env.newBuilders
  sendInShares closes (env.outcomes (SmbSendFiles.clinit env)) session ConfigFile.all
  return true

/-- A first call that has opened its connection, and behind which nothing is caught. -/
def sendInSmb : SmbProgram Bool :=
  tryWith (failure closes) .session (lift (env.authentication (SmbSendFiles.clinit env)))
    (inSession env closes)

/-- The call closes its session, and what its blocks open. -/
theorem sendInSmb_follows : Follows (failure closes) (sendInSmb env closes) (plainSend env) := by
  apply (Follows.lift _).tryWith
  intro session
  apply (Follows.lift _).bind
  intro _
  apply (sendInShares_follows _).bind
  exact fun _ => Follows.lift (pure true)

/-- The authentication opens the client and the connection for good. -/
theorem openSession_apply (t : Tracked World SmbResource) :
    env.openSession (SmbSendFiles.clinit env) t =
      lift (env.authentication (SmbSendFiles.clinit env))
        { t with events := t.events ++ keptOpen env } := by
  unfold Environment.openSession keptOpen
  by_cases hconnect : env.connect (SmbSendFiles.clinit env).HOST = .ok
  · simp only [if_pos hconnect]
    show lift _ (Tracked.mk t.state ((t.events ++ [.opened .client]) ++ [.opened .connection])) = _
    rw [List.append_assoc]
    rfl
  · simp only [if_neg hconnect]
    rfl

/-- The handler of the call returns `false` in place of an `IOException`. -/
theorem catchIO_false (m : SmbProgram Bool) (t : Tracked World SmbResource) :
    catchIO m (pure false) t = (m t).map fun r => (caught r.1, r.2) := by
  unfold catchIO
  rw [tryCatch_apply]
  cases m t with
  | none => rfl
  | some r => obtain ⟨((_ | _) | _ | _) | _, t'⟩ := r <;> rfl

/-- A whole call is what happens in the session, behind the handler. -/
theorem sendFilesClosing_eq (t : Tracked World SmbResource) :
    env.sendFilesClosing closes t =
      (sendInSmb env closes { t with events := t.events ++ keptOpen env }).map fun r =>
        (caught r.1, r.2) := by
  have hsession : (fun session => do
      lift env.newBuilders
      sendInShare closes (env.outcomes (SmbSendFiles.clinit env)) session .items
      sendInShare closes (env.outcomes (SmbSendFiles.clinit env)) session .things
      sendInShare closes (env.outcomes (SmbSendFiles.clinit env)) session .rules
      sendInShare closes (env.outcomes (SmbSendFiles.clinit env)) session .sitemap
      return true) = inSession env closes := by
    funext session
    simp only [inSession, ConfigFile.all, sendInShares, bind_assoc, pure_bind]
  unfold Environment.sendFilesClosing
  simp only [hsession]
  show catchIO _ (pure false) t = _
  rw [catchIO_false, tryWith_congr (openSession_apply env t)]
  rfl

end Call

/-- Closings do not keep a first call from ending. -/
theorem sendFilesClosing_ends (env : Environment) (closes : SmbResource → Reply) (w : World)
    (h : env.sendFilesClosing closes ⟨w, []⟩ = none) : env.sendFiles w = none := by
  rw [sendFilesClosing_eq, Option.map_eq_none_iff] at h
  rw [sendFiles_eq_caught, Option.map_eq_none_iff]
  exact (sendInSmb_follows env closes _).1 h

/-- **What a first call opens and closes.** Closings do not keep the call from ending. Whatever
fails, the call opens its client and perhaps its connection for good; every session and share
that it opens it closes once, and before what has been opened earlier. When no closing fails,
the call does what `Environment.sendFiles` does. It returns `true` exactly when
`Environment.sendFiles` does and no closing has failed. -/
theorem sendFiles_closes (env : Environment) (closes : SmbResource → Reply) (w : World) :
    (env.sendFilesClosing closes ⟨w, []⟩ = none → env.sendFiles w = none) ∧
    ∀ r t, env.sendFilesClosing closes ⟨w, []⟩ = some (r, t) →
      ∃ es, t.events = keptOpen env ++ es ∧ Balanced es ∧
        (Calm (failure closes) es → env.sendFiles w = some (r, t.state)) ∧
        (r = .ok true ↔ Calm (failure closes) es ∧
          ∃ w', env.sendFiles w = some (.ok true, w')) := by
  refine ⟨sendFilesClosing_ends env closes w, fun r t h => ?_⟩
  rw [sendFilesClosing_eq] at h
  obtain ⟨⟨inner, t'⟩, hrun, heq⟩ := Option.map_eq_some_iff.mp h
  cases heq
  obtain ⟨es, hevents, hbalanced, hok, hplain⟩ := (sendInSmb_follows env closes _).2 _ _ hrun
  have hcalm : Calm (failure closes) es → env.sendFiles w = some (caught inner, t'.state) := by
    intro hcalm
    rw [sendFiles_eq_caught, hplain hcalm]
    rfl
  refine ⟨es, hevents, hbalanced, hcalm, fun htrue => ?_, fun ⟨hes, w', hw'⟩ => ?_⟩
  · have hes := hok ⟨true, caught_eq_true.mp htrue⟩
    refine ⟨hes, t'.state, ?_⟩
    rw [hcalm hes, htrue]
  · rw [hcalm hes, Option.some.injEq, Prod.mk.injEq] at hw'
    exact hw'.1

/-- The configuration of the repository without apartments. -/
def emptyHouse : Environment where
  ini := fun sectionName keyName =>
    if keyName = "number" then some "0" else openHabIniFile sectionName keyName
  fails _ _ _ := false
  connect _ := .ok
  authenticate _ := .ok
  outcomes _ := allSucceed

/-- Only the closing of the share for the things throws. -/
def thingsClosing : SmbResource → Reply
  | .share .things => .ioException
  | _ => .ok

/-- The first call for a house without apartments, when closing one share throws. -/
theorem emptyHouse_closing : ∃ t, emptyHouse.sendFilesClosing thingsClosing
    ⟨startWorld openHabIni (shareOf openHabIni), []⟩ = some (.ok false, t) := by
  have hresult : (emptyHouse.sendFilesClosing thingsClosing
      ⟨startWorld openHabIni (shareOf openHabIni), []⟩).map Prod.fst = some (.ok false) := by
    decide +kernel
  obtain ⟨⟨r, t⟩, hrun, rfl⟩ := Option.map_eq_some_iff.mp hresult
  exact ⟨t, hrun⟩

/-- That call closes what it opens behind its authentication. -/
theorem sendFiles_closes_emptyHouse : ∃ t es, emptyHouse.sendFilesClosing thingsClosing
    ⟨startWorld openHabIni (shareOf openHabIni), []⟩ = some (.ok false, t) ∧
      t.events = keptOpen emptyHouse ++ es ∧ Balanced es := by
  obtain ⟨t, hrun⟩ := emptyHouse_closing
  obtain ⟨es, hevents, hbalanced, -⟩ := (sendFiles_closes _ _ _).2 _ _ hrun
  exact ⟨t, es, hrun, hevents, hbalanced⟩

/-! ## What a failed closing leaves -/

/-- The outcomes, but the copy of one file breaks and leaves `contents`. -/
def broken (o : Outcomes) (file : ConfigFile) (contents : Option String) : Outcomes :=
  { o with
    copies := Function.update o.copies file false
    leaves := Function.update o.leaves file fun _ => contents }

section Broken

variable {closes : SmbResource → Reply} {o : Outcomes} {session : Option Session}
  {file : ConfigFile} {contents : Option String}

/-- Breaking the copy of one file changes no block of another. -/
theorem sendFile_broken_of_ne {other : ConfigFile} (hne : other ≠ file) :
    sendFile (broken o file contents) session other = sendFile o session other := by
  have hcopy : copy (broken o file contents) other = copy o other := by
    simp only [copy, broken, Function.update_of_ne hne]
  unfold sendFile
  rw [hcopy]
  rfl

/-- A copy that has succeeded is a copy that breaks when it has written everything. -/
theorem copy_broken {w w' : World} (h : copy o file w = some (.ok (), w')) :
    copy (broken o file (w'.share file.destination)) file w = some (.error .io, w') := by
  by_cases hcopies : o.copies file = true
  · simp only [copy, Java.bind_apply, Java.get_apply, Option.bind_some, if_pos hcopies,
      Java.set_apply] at h
    cases h
    simp only [copy, broken, Java.bind_apply, Java.get_apply, Option.bind_some,
      Function.update_self, Bool.false_eq_true, if_false, Java.set_apply, Java.throw_apply]
  · simp only [copy, Java.bind_apply, Java.get_apply, Option.bind_some, if_neg hcopies,
      Java.set_apply, Java.throw_apply] at h
    cases h

/-- Closing the share throws behind the copy as if the copy had broken with the file in place. -/
theorem copy_broken_behind {w w' : World}
    (h : (shareFor o session file >>= fun _ => copy o file) w = some (.ok (), w')) :
    (shareFor o session file >>= fun _ =>
      copy (broken o file (w'.share file.destination)) file) w = some (.error .io, w') := by
  rw [Java.bind_apply] at h ⊢
  obtain ⟨⟨found, w₁⟩, hshare, hcopy⟩ := Option.bind_eq_some_iff.mp h
  rw [hshare]
  cases found with
  | error e => cases hcopy
  | ok value => exact copy_broken hcopy

/-- A block leaves the files as a block without closing, or as one whose copy breaks: then it
throws, and the closing of its share does. -/
theorem sendInShare_state {r : Except Throwable Unit} {t t' : Tracked World SmbResource}
    (h : sendInShare closes o session file t = some (r, t')) :
    (∃ r', sendFile o session file t.state = some (r', t'.state) ∧
      r = r'.mapError Throwable.exception) ∨
    ∃ e contents, r = .error e ∧ closes (.share file) ≠ .ok ∧
      sendFile (broken o file contents) session file t.state = some (.error .io, t'.state) := by
  rw [sendFile_eq, Java.bind_apply]
  unfold sendInShare at h
  rw [bind_apply] at h
  unfold lift at h
  rw [Starting.ofJava_apply] at h
  cases hbuild : build o file t.state with
  | none =>
      rw [hbuild] at h
      cases h
  | some built =>
      rw [hbuild] at h
      obtain ⟨e | _ | _, w⟩ := built
      · cases h
        exact .inl ⟨_, rfl, rfl⟩
      · cases h
        exact .inl ⟨_, rfl, rfl⟩
      · replace h : tryWith (failure closes) (.share file)
            (lift (Starting.ofJava (shareFor o session file)))
            (fun _ => lift (Starting.ofJava (copy o file))) ⟨w, t.events⟩ = some (r, t') := h
        obtain ⟨plain, hrun, hplain⟩ := tryWith_lift h
        rw [← Starting.ofJava_bind, Starting.ofJava_apply] at hrun
        obtain ⟨⟨r', w'⟩, hjava, heq⟩ := Option.map_eq_some_iff.mp hrun
        rw [lifted, Prod.mk.injEq] at heq
        obtain ⟨rfl, rfl⟩ := heq
        rcases hplain with rfl | ⟨a, e, hok, hfailure, rfl⟩
        · exact .inl ⟨r', hjava, rfl⟩
        · obtain rfl : r' = .ok () := by
            cases r' with
            | error e => cases hok
            | ok a => rfl
          refine .inr ⟨e, t'.state.share file.destination, rfl, fun hcloses => ?_, ?_⟩
          · simp [failure, hcloses, Reply.throwable] at hfailure
          · rw [sendFile_eq, Java.bind_apply]
            show ((build o file t.state).bind _) = _
            rw [hbuild]
            exact copy_broken_behind hjava

/-- The blocks with closings leave the files as the plain ones do, or as the plain ones with one
copy broken. -/
theorem sendInShares_state {files : List ConfigFile} (hnodup : files.Nodup)
    {r : Except Throwable Unit} {t t' : Tracked World SmbResource}
    (h : sendInShares closes o session files t = some (r, t')) :
    (∃ r', sendBlocks o session files t.state = some (r', t'.state) ∧
      r = r'.mapError Throwable.exception) ∨
    ∃ e file contents, r = .error e ∧ file ∈ files ∧ closes (.share file) ≠ .ok ∧
      sendBlocks (broken o file contents) session files t.state =
        some (.error .io, t'.state) := by
  induction files generalizing t with
  | nil =>
      cases h
      exact .inl ⟨.ok (), rfl, rfl⟩
  | cons file files ih =>
      obtain ⟨hnot, hnodup⟩ := List.nodup_cons.mp hnodup
      rw [sendInShares, bind_apply] at h
      obtain ⟨⟨first, t₁⟩, hfirst, hrest⟩ := Option.bind_eq_some_iff.mp h
      obtain ⟨first', hplain, rfl⟩ | ⟨e, contents, rfl, hcloses, hbroken⟩ :=
        sendInShare_state hfirst
      · rw [sendBlocks, Java.bind_apply, hplain]
        cases first' with
        | error e =>
            cases hrest
            exact .inl ⟨_, rfl, rfl⟩
        | ok a =>
            obtain hsame | ⟨e, other, contents, hr, hother, hcloses, hbroken⟩ := ih hnodup hrest
            · exact .inl hsame
            · have hne : file ≠ other := fun h => hnot (h ▸ hother)
              refine .inr ⟨e, other, contents, hr, List.mem_cons_of_mem _ hother, hcloses, ?_⟩
              rw [sendBlocks, Java.bind_apply, sendFile_broken_of_ne hne, hplain]
              exact hbroken
      · cases hrest
        refine .inr ⟨e, file, contents, rfl, List.mem_cons_self, hcloses, ?_⟩
        rw [sendBlocks, Java.bind_apply, hbroken]
        rfl

end Broken

section Refinement

variable {env : Environment} {closes : SmbResource → Reply}

/-- The outcomes, or those with a broken copy to one share whose closing throws. -/
def Adapted (closes : SmbResource → Reply) (o o' : Outcomes) : Prop :=
  o' = o ∨ ∃ file contents, closes (.share file) ≠ .ok ∧ o' = broken o file contents

/-- The same for what happens in the session. -/
theorem inSession_state {session : Option Session} {x : Except Throwable Bool}
    {t t' : Tracked World SmbResource} (h : inSession env closes session t = some (x, t')) :
    ∃ o x', Adapted closes (env.outcomes (SmbSendFiles.clinit env)) o ∧
      plainIn env o session t.state = some (x', t'.state) ∧
      (x = x' ∨ (∃ e, x = .error e) ∧ x' = .error (.exception .io)) := by
  obtain ⟨built, jvm, hbuilders, hbuilt⟩ := newBuilders_result env t.state
  unfold inSession at h
  rw [bind_apply] at h
  unfold lift at h
  rw [hbuilders] at h
  unfold plainIn
  simp only [Starting.bind_apply, hbuilders]
  rcases hbuilt with rfl | rfl
  · replace h : (sendInShares closes _ session ConfigFile.all >>= fun _ => pure true)
        (Tracked.mk { t.state with jvm := jvm } t.events) = some (x, t') := h
    rw [bind_apply] at h
    obtain ⟨⟨blocks, t₁⟩, hblocks, hend⟩ := Option.bind_eq_some_iff.mp h
    have hfinal : t₁ = t' := by cases blocks <;> cases hend <;> rfl
    subst hfinal
    obtain ⟨blocks', hplain, rfl⟩ | ⟨e, file, contents, rfl, -, hcloses, hplain⟩ :=
      sendInShares_state ConfigFile.nodup_all hblocks
    · refine ⟨_, x, .inl rfl, ?_, .inl rfl⟩
      simp only [Option.bind_some, startBlocks, Starting.ofJava_apply, hplain]
      cases blocks' <;> cases hend <;> rfl
    · refine ⟨_, .error (.exception .io), .inr ⟨file, contents, hcloses, rfl⟩, ?_, .inr ⟨?_, rfl⟩⟩
      · simp only [Option.bind_some, startBlocks, Starting.ofJava_apply, hplain]
        rfl
      · cases hend
        exact ⟨e, rfl⟩
  · cases h
    exact ⟨_, .error .initializer, .inl rfl, rfl, .inl rfl⟩

/-- The plain call with other outcomes for the blocks. -/
theorem plainSend_eq (env : Environment) (o : Outcomes) (w : World) :
    plainSend { env with outcomes := fun _ => o } w =
      match login env with
      | .ok session => plainIn env o session w
      | .error e => some (.error e, w) := by
  have hlogin : login { env with outcomes := fun _ => o } = login env := rfl
  unfold plainSend
  rw [Starting.bind_apply, authentication_eq, hlogin]
  cases login env <;> rfl

/-- The same for the call with its session. -/
theorem sendInSmb_state {x : Except Throwable Bool} {t t' : Tracked World SmbResource}
    (h : sendInSmb env closes t = some (x, t')) :
    ∃ o x', Adapted closes (env.outcomes (SmbSendFiles.clinit env)) o ∧
      plainSend { env with outcomes := fun _ => o } t.state = some (x', t'.state) ∧
      (x = x' ∨ (∃ e, x = .error e) ∧ (x' = .error (.exception .io) ∨ ∃ b, x' = .ok b)) := by
  unfold sendInSmb tryWith at h
  rw [bind_apply] at h
  unfold lift at h
  rw [authentication_eq] at h
  simp only [plainSend_eq]
  cases hlogin : login env with
  | error e =>
      rw [hlogin] at h
      cases h
      exact ⟨_, _, .inl rfl, rfl, .inl rfl⟩
  | ok session =>
      rw [hlogin] at h
      cases session with
      | none =>
          replace h : inSession env closes none t = some (x, t') := h
          obtain ⟨o, x', hadapted, hplain, hx⟩ := inSession_state h
          exact ⟨o, x', hadapted, hplain, hx.imp_right fun hx => ⟨hx.1, .inl hx.2⟩⟩
      | some session =>
          replace h : closeAfter (failure closes) .session (inSession env closes (some session)) t =
            some (x, t') := h
          rw [closeAfter_apply] at h
          obtain ⟨⟨done, t₁⟩, hdone, heq⟩ := Option.map_eq_some_iff.mp h
          cases heq
          obtain ⟨o, x', hadapted, hplain, hx⟩ := inSession_state hdone
          refine ⟨o, x', hadapted, hplain, ?_⟩
          cases done with
          | error e => exact hx.imp_right fun hx => ⟨hx.1, .inl hx.2⟩
          | ok b =>
              obtain rfl | ⟨⟨e, he⟩, -⟩ := hx
              · cases hfailure : failure closes .session with
                | none => exact .inl rfl
                | some e => exact .inr ⟨⟨e, rfl⟩, .inr ⟨b, rfl⟩⟩
              · cases he

end Refinement

/-- **A failed closing adds nothing to what can become of the files.** A first call with its
resources leaves the files, the virtual machine and what is recorded as a first call of
`Environment.sendFiles` does, with the same outcomes or with a broken copy to one share whose
closing throws. It has the same result, or that call returns and this one does not return
`true`. -/
theorem sendFilesClosing_refines (env : Environment) (closes : SmbResource → Reply) (w : World)
    (r : Except Throwable Bool) (t : Tracked World SmbResource)
    (h : env.sendFilesClosing closes ⟨w, []⟩ = some (r, t)) :
    ∃ o r', Adapted closes (env.outcomes (SmbSendFiles.clinit env)) o ∧
      ({ env with outcomes := fun _ => o } : Environment).sendFiles w = some (r', t.state) ∧
      (r = r' ∨ r ≠ .ok true ∧ ∃ b, r' = .ok b) := by
  rw [sendFilesClosing_eq] at h
  obtain ⟨⟨x, t'⟩, hrun, heq⟩ := Option.map_eq_some_iff.mp h
  cases heq
  obtain ⟨o, x', hadapted, hplain, hx⟩ := sendInSmb_state hrun
  refine ⟨o, caught x', hadapted, ?_, ?_⟩
  · rw [sendFiles_eq_caught, hplain]
    rfl
  · obtain rfl | ⟨⟨e, rfl⟩, hx'⟩ := hx
    · exact .inl rfl
    · refine .inr ⟨fun htrue => ?_, ?_⟩
      · cases caught_eq_true.mp htrue
      · rcases hx' with rfl | ⟨b, rfl⟩
        · exact ⟨false, rfl⟩
        · exact ⟨b, rfl⟩

/-- That call leaves the files as a plain call does with the copy of the things broken. -/
theorem sendFilesClosing_refines_emptyHouse : ∃ t o r', emptyHouse.sendFilesClosing thingsClosing
    ⟨startWorld openHabIni (shareOf openHabIni), []⟩ = some (.ok false, t) ∧
      ({ emptyHouse with outcomes := fun _ => o } : Environment).sendFiles
        (startWorld openHabIni (shareOf openHabIni)) = some (r', t.state) := by
  obtain ⟨t, hrun⟩ := emptyHouse_closing
  obtain ⟨o, r', -, hplain, -⟩ := sendFilesClosing_refines _ _ _ _ _ hrun
  exact ⟨t, o, r', hrun, hplain⟩

end OpenhabConfiguration.Analysis
