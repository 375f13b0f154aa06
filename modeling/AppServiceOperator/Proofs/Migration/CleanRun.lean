import AppServiceOperator.Cluster.Client
import AppServiceOperator.Proofs.Reconcile.Attempt
/-!
# Clean runs of the migration script

When a run of the script counts as completed, from the outside in: which calls the run makes and
how they are answered (`completed_of_run`), what the output has to be (`outcome_eq_completed`), and
which sessions the client answers with such an output: exactly the clean ones (`clean_of_exec`,
`exec_of_clean`).
-/
namespace AppServiceOperator

open Program (History Path path_done bind_done bind_eq)

/-! ## Blank texts -/

namespace Text

theorem dropBlanks_eq_nil {cs : List Char} : dropBlanks cs = [] ↔ cs.all isBlank = true := by
  induction cs with
  | nil => simp [dropBlanks]
  | cons c cs ih =>
    by_cases hc : isBlank c = true
    · rw [dropBlanks, List.dropWhile_cons_of_pos hc, List.all_cons, hc, Bool.true_and]
      exact ih
    · rw [dropBlanks, List.dropWhile_cons_of_neg hc]
      simp [hc]

/-- Where blanks were dropped, only blanks are left if nothing is. -/
theorem all_isBlank_dropBlanks {cs : List Char} :
    (dropBlanks cs).all isBlank = true ↔ cs.all isBlank = true := by
  induction cs with
  | nil => rfl
  | cons c cs ih =>
    by_cases hc : isBlank c = true
    · rw [dropBlanks, List.dropWhile_cons_of_pos hc, List.all_cons, hc, Bool.true_and]
      exact ih
    · rw [dropBlanks, List.dropWhile_cons_of_neg hc]

/-- Nothing is left of a text by trimming exactly if it is white space. -/
theorem trim_eq_empty {s : String} : trim s = "" ↔ isAllBlank s = true := by
  rw [trim, ← String.toList_eq_nil_iff, String.toList_ofList, List.reverse_eq_nil_iff, dropBlanks_eq_nil,
    List.all_reverse, all_isBlank_dropBlanks, isAllBlank]

end Text

/-! ## Output -/

theorem exitFailure_eq_none {status : Option ExitStatus} :
    exitFailure status = none ↔ ∃ s, status = some s ∧ s.status = some "Success" := by
  cases status with
  | none => simp [exitFailure]
  | some s =>
    by_cases hs : s.status = some "Success"
    · simp [exitFailure, hs]
    · simp [exitFailure, hs]

namespace Migration

theorem outcome_eq_completed {pod pod' stdout : String} {output : ExecOutput} :
    outcome pod output = .ok (.completed pod' stdout) ↔
      Text.isAllBlank output.stderr = true ∧ output.failure = none ∧ pod' = pod ∧ stdout = output.stdout := by
  unfold outcome
  by_cases hblank : Text.trim output.stderr = ""
  · have hall := Text.trim_eq_empty.1 hblank
    cases hfailure : output.failure with
    | none => simp [hblank, hall, eq_comm]
    | some failure => simp [hblank]
  · have hall := mt Text.trim_eq_empty.2 hblank
    simp [hblank, hall]

end Migration

/-! ## The pod -/

/-- The pod is running, and its database is ready. -/
def Pod.Ready (p : Pod) : Prop :=
  p.phase? = some "Running" ∧ ∃ c ∈ p.containers, c.name = "postgresql" ∧ c.ready = true

theorem Pod.isReadyDatabase_iff {p : Pod} : p.isReadyDatabase = true ↔ p.Ready := by
  simp only [isReadyDatabase, Ready, Bool.and_eq_true, decide_eq_true_eq, List.any_eq_true]
  rfl

namespace Migration

/-- A run is completed only by a command in the first ready pod of the list, whose output is blank on
the error stream and whose exit did not fail. -/
theorem completed_of_run {ns pod stdout : String} {s : MigrationSettings} {h : History Call.Answer}
    (path : Path (run ns s) h (.done (.ok (.completed pod stdout)))) :
    ∃ (front back : List Pod) (target : Pod) (output : ExecOutput),
      h = [⟨.listPods ns Desired.databaseSelector, .ok (front ++ target :: back)⟩,
        ⟨.exec ns target.metadata.anyName s.command s.timeoutSeconds, some (.ok output)⟩] ∧
      target.Ready ∧ (∀ p ∈ front, ¬ p.Ready) ∧
      Text.isAllBlank output.stderr = true ∧ output.failure = none := by
  generalize hresult : (.ok (.completed pod stdout) : Except OperatorError MigrationOutcome) = r at path
  cases attempt_of_run path with
  | @ran pods target output found =>
    obtain ⟨ready, front, back, rfl, first⟩ := List.find?_eq_some_iff_append.1 found
    obtain ⟨blank, success, -, -⟩ := outcome_eq_completed.1 hresult.symm
    refine ⟨front, back, target, output, rfl, Pod.isReadyDatabase_iff.1 ready, ?_, blank, success⟩
    intro p hp hready
    have hfirst := first p hp
    rw [Pod.isReadyDatabase_iff.2 hready] at hfirst
    cases hfirst
  | _ => cases hresult

end Migration

/-! ## The session -/

namespace Session

/-- The bytes that a frame adds to a channel. -/
def payloadOn (channel : UInt8) : Frame → List UInt8
  | .binary c bs => if c = channel then bs else []
  | .text _ => []

/-- All bytes that were sent over a channel. -/
def bytesOn (channel : UInt8) (frames : List Frame) : List UInt8 := frames.flatMap (payloadOn channel)

/-- The first frame that is a report says how the command ended, after all bytes of the streams. -/
def Reported (frames : List Frame) (stdout stderr : List UInt8) (status : ExitStatus) : Prop :=
  ∃ before payload after, frames = before ++ .binary statusChannel payload :: after ∧
    payload ≠ [] ∧ exitStatusOf? payload = some status ∧ bytesOn statusChannel before = [] ∧
    stdout = bytesOn stdoutChannel before ∧ stderr = bytesOn stderrChannel before

theorem Reported.cons {frames : List Frame} {stdout stderr : List UInt8} {status : ExitStatus} (f : Frame)
    (h : Reported frames stdout stderr status) (hf : payloadOn statusChannel f = []) :
    Reported (f :: frames) (payloadOn stdoutChannel f ++ stdout) (payloadOn stderrChannel f ++ stderr)
      status := by
  obtain ⟨before, payload, after, rfl, hne, hstatus, hbefore, rfl, rfl⟩ := h
  refine ⟨f :: before, payload, after, rfl, hne, hstatus, ?_, rfl, rfl⟩
  rw [bytesOn, List.flatMap_cons, hf]
  exact hbefore

/-- A session that ends with a status was told it in a report. -/
theorem reported_of_outcomeFrom {stdout stderr out err : List UInt8} {ending : SessionEnd}
    {frames : List Frame} {status : ExitStatus}
    (h : outcomeFrom stdout stderr ending frames = .ended ⟨out, err, some status⟩) :
    ∃ out' err', Reported frames out' err' status ∧ out = stdout ++ out' ∧ err = stderr ++ err' := by
  fun_induction outcomeFrom stdout stderr ending frames with
  | case1 | case2 | case3 => cases h
  | case4 stdout stderr b bs frames ih =>
    obtain ⟨out', err', reported, rfl, rfl⟩ := ih h
    have extended := reported.cons (.binary stdoutChannel (b :: bs)) rfl
    exact ⟨_, _, extended, by simp [payloadOn], by simp [payloadOn, stdoutChannel, stderrChannel]⟩
  | case5 stdout stderr b bs frames _ ih =>
    obtain ⟨out', err', reported, rfl, rfl⟩ := ih h
    have extended := reported.cons (.binary stderrChannel (b :: bs)) rfl
    exact ⟨_, _, extended, by simp [payloadOn, stdoutChannel, stderrChannel], by simp [payloadOn]⟩
  | case6 stdout stderr b bs frames status' read =>
    cases h
    exact ⟨[], [], ⟨[], b :: bs, frames, rfl, by simp, read, rfl, rfl, rfl⟩, by simp, by simp⟩
  | case7 => cases h
  | case8 stdout stderr channel b bs frames hout herr hstatus ih =>
    obtain ⟨out', err', reported, rfl, rfl⟩ := ih h
    have extended := reported.cons (.binary channel (b :: bs)) (if_neg hstatus)
    exact ⟨_, _, extended, by simp [payloadOn, hout], by simp [payloadOn, herr]⟩
  | case9 stdout stderr channel frames ih =>
    obtain ⟨out', err', reported, rfl, rfl⟩ := ih h
    have extended := reported.cons (.binary channel []) (by simp [payloadOn])
    exact ⟨_, _, extended, by simp [payloadOn], by simp [payloadOn]⟩
  | case10 stdout stderr text frames ih =>
    obtain ⟨out', err', reported, rfl, rfl⟩ := ih h
    exact ⟨_, _, reported.cons (.text text) rfl, rfl, rfl⟩

/-- What is reported is what the session comes to, whatever follows the report. -/
theorem outcomeFrom_of_reported {stdout stderr out err : List UInt8} {ending : SessionEnd}
    {frames : List Frame} {status : ExitStatus} (h : Reported frames out err status) :
    outcomeFrom stdout stderr ending frames = .ended ⟨stdout ++ out, stderr ++ err, some status⟩ := by
  obtain ⟨before, payload, after, rfl, hne, hstatus, hbefore, rfl, rfl⟩ := h
  induction before generalizing stdout stderr with
  | nil =>
    obtain ⟨b, bs, rfl⟩ := List.exists_cons_of_ne_nil hne
    simp [outcomeFrom, statusChannel, stdoutChannel, stderrChannel, hstatus, bytesOn]
  | cons f before ih =>
    simp only [bytesOn, List.flatMap_cons, List.append_eq_nil_iff] at hbefore
    have rest := fun stdout stderr => @ih stdout stderr hbefore.2
    simp only [bytesOn, List.flatMap_cons] at rest ⊢
    cases f with
    | text t => simpa [outcomeFrom, payloadOn] using rest stdout stderr
    | binary channel bs =>
      cases bs with
      | nil => simpa [outcomeFrom, payloadOn] using rest stdout stderr
      | cons b bs =>
        have hchannel : channel ≠ statusChannel := by
          rintro rfl
          simp [payloadOn] at hbefore
        by_cases hout : channel = stdoutChannel
        · subst hout
          simp [outcomeFrom, payloadOn, rest, stdoutChannel, stderrChannel]
        · by_cases herr : channel = stderrChannel
          · subst herr
            simp [outcomeFrom, payloadOn, rest, stdoutChannel, stderrChannel]
          · simp [outcomeFrom, payloadOn, rest, hout, herr, hchannel]

/-- A report of success ends the session, and all that was sent on the error stream is white space. -/
def Clean (s : Session) : Prop :=
  ∃ stdout stderr status, Reported s.frames stdout stderr status ∧ status.status = some "Success" ∧
    Text.isAllBlank (Text.Utf8.decodeLossy stderr) = true

theorem clean_of_outcome {s : Session} {result : ExecSession} (h : s.outcome = .ended result)
    (blank : Text.isAllBlank result.output.stderr = true) (success : result.output.failure = none) :
    s.Clean := by
  obtain ⟨out, err, status?⟩ := result
  obtain ⟨status, rfl, hsuccess⟩ := exitFailure_eq_none.1 success
  obtain ⟨out', err', reported, rfl, rfl⟩ := reported_of_outcomeFrom h
  exact ⟨_, _, status, reported, hsuccess, blank⟩

theorem outcome_of_clean {s : Session} (h : s.Clean) :
    ∃ result, s.outcome = .ended result ∧ Text.isAllBlank result.output.stderr = true ∧
      result.output.failure = none := by
  obtain ⟨out, err, status, reported, success, blank⟩ := h
  refine ⟨⟨out, err, some status⟩, outcomeFrom_of_reported reported, blank, ?_⟩
  exact exitFailure_eq_none.2 ⟨status, rfl, success⟩

end Session

/-! ## The client -/

/-- A command was answered in time, with a clean session. -/
def CleanExchange (wire : History Wire.Answer) : Prop :=
  ∃ request seconds session, wire = [⟨.sendWithin request seconds, some (.session session)⟩] ∧
    session.protocol = Client.execProtocol ∧ session.Clean

theorem Client.eq_session_of_sessionOf {response : Response} {session : Session}
    (h : sessionOf response = .ok session) :
    response = .session session ∧ session.protocol = execProtocol := by
  cases response with
  | broken text => cases h
  | answer status body => cases h
  | session s =>
    by_cases hs : s.protocol = execProtocol
    · rw [sessionOf, if_pos hs] at h
      cases h
      exact ⟨rfl, hs⟩
    · rw [sessionOf, if_neg hs] at h
      cases h

theorem Client.ended_of_execResult {pod : String} {response : Response} {output : ExecOutput}
    (h : execResult pod response = some (.ok output)) :
    ∃ session result, response = .session session ∧ session.protocol = execProtocol ∧
      session.outcome = .ended result ∧ output = result.output := by
  unfold execResult at h
  split at h
  · cases h
  · rename_i session opened
    split at h
    · rename_i result ended
      cases h
      obtain ⟨rfl, protocol⟩ := eq_session_of_sessionOf opened
      exact ⟨session, result, rfl, protocol, ended, rfl⟩
    · cases h
    · cases h

/-- Output that is blank on the error stream and no failure only comes from a clean session. -/
theorem Client.clean_of_exec {ns pod : String} {command : List String} {seconds : Nat}
    {output : ExecOutput} {wire : History Wire.Answer}
    (path : Path (exec ns pod command seconds) wire (.done (some (.ok output))))
    (blank : Text.isAllBlank output.stderr = true) (success : output.failure = none) :
    CleanExchange wire := by
  unfold exec at path
  split at path
  · cases path
  · rename_i request _
    cases path with
    | step response path =>
      cases response with
      | none => cases path
      | some response =>
        obtain ⟨rfl, hdone⟩ := path_done.1 path
        have answered := (Program.done.inj hdone).symm
        obtain ⟨session, result, rfl, protocol, ended, rfl⟩ := ended_of_execResult answered
        exact ⟨request, seconds, session, rfl, protocol, Session.clean_of_outcome ended blank success⟩

/-- Every clean session is answered with such an output. -/
theorem Client.exec_of_clean {ns pod : String} {command : List String} {seconds : Nat} {request : Request}
    {session : Session} (hrequest : execRequest (ApiResource.pods.path ns) pod command = .ok request)
    (protocol : session.protocol = execProtocol) (clean : session.Clean) :
    ∃ output, Text.isAllBlank output.stderr = true ∧ output.failure = none ∧
      Path (exec ns pod command seconds) [⟨.sendWithin request seconds, some (.session session)⟩]
        (.done (some (.ok output))) := by
  obtain ⟨result, ended, blank, success⟩ := Session.outcome_of_clean clean
  refine ⟨result.output, blank, success, ?_⟩
  have answered : execResult pod (.session session) = some (.ok result.output) := by
    simp [execResult, sessionOf, protocol, ended]
  simp only [exec, hrequest, bind_eq, Program.bind_call, bind_done]
  refine .step _ ?_
  dsimp only
  rw [answered]
  exact .here _

end AppServiceOperator
