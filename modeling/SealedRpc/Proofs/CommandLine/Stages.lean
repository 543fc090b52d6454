import SealedRpc.CommandLine.Run
import SealedRpc.Proofs.Exchange.Stages

/-!
# Commands and what stops them

A command goes through stages and comes to a task, and the task is carried out: a request is
encoded, sent and answered, and the answer is decoded; a line is shown; or a service is handed over
to a server. What a command comes to is spelled out here as one chain of steps that may fail, with
what stops the command named by the stage at which it does. The outcome of the command is shown to
follow from that: obstacle by obstacle before the task, and task by task.

A command is meant to turn whatever stops it into the status two, with a line that says why. It
does so for all but a few obstacles, which escape from it: a key on a curve that is not known; a
number that was given empty; an expected key size that is too long to be shown; a request that has
no octets; a fault of the transport that is none of its own; and, for the service alone, a key that
is encrypted or not an RSA key, which every other command reports, and whatever its server raises.

## Main results

* `not_escapes_answered`: a response, a connection that fails and a timeout let nothing escape.
* `follows_early`, `follows_task`: what follows from an obstacle before the task, and from a task.
* `follows_runCommand`: the outcome of every command follows from its stages.
-/

namespace SealedRpc.CommandLine

/-! ### What stops a command -/

/-- What stops a command: an obstacle before its task, the stage at which its call stops, or what
its server raises. -/
inductive Hindrance where
  | early (obstacle : Obstacle)
  | call (stop : Stop)
  | serving (words : Text)

/-- Whether nothing is sent before a hindrance. -/
def Hindrance.isUnsent : Hindrance → Bool
  | .call stop => stop.isUnsent
  | .early _ | .serving _ => true

/-- The text of the request that a command makes, if it makes one. -/
def Command.request? : Command → Option Text
  | .encryptedRequest target _ _ | .signedRequest target _ => some target.request.shown
  | .selfTest _ _ | .serve _ _ => none

/-- The hindrances that a command does not expect, with what escapes from it. -/
inductive Escapes (c : Command) : Hindrance → Escape → Prop
  | curve (path : Argument Text) (identifier : Bytes) :
      Escapes c (.early (.keyLoading path (.unknownCurve identifier)))
        (.key (.unknownCurve identifier))
  | number (fault : ConversionFault) : Escapes c (.early (.number fault)) (.argument fault)
  | selfTest (fault : SizeFault) :
      Escapes c (.early (.selfTest (.sizeNotShown fault))) (.call (.codec (.sizeNotShown fault)))
  | startup {fault : KeyFault} (hfault : reportsKeyFault fault = false) :
      Escapes c (.early (.startup (.key fault))) (.key fault)
  | call {text : Text} {stop : Stop} (hrequest : c.request? = some text)
      (hunnamed : stop.Unnamed text) : Escapes c (.call stop) (.call stop.error)
  | serving (words : Text) : Escapes c (.serving words) (.server words)

/-- A hindrance lets one thing escape at most. -/
theorem Escapes.unique {c : Command} {hindrance : Hindrance} {cause cause' : Escape}
    (h : Escapes c hindrance cause) (h' : Escapes c hindrance cause') : cause = cause' := by
  cases h <;> cases h' <;> rfl

/-- A response of any status, a connection that fails and a timeout let nothing escape. -/
theorem not_escapes_answered (c : Command) (cause : Escape) :
    (∀ error, ¬ Escapes c (.call (.exchange (.transport error))) cause) ∧
      ∀ error, ¬ Escapes c (.call (.decoding error)) cause := by
  constructor
  · intro error hescapes
    cases hescapes with
    | call _ hunnamed =>
        cases hunnamed with
        | fault hfault => cases hfault
  · intro error hescapes
    cases hescapes with
    | call _ hunnamed => cases hunnamed

/-! ### Outcomes that follow -/

/-- A line that says what went wrong. -/
def ErrorLine.IsFailure (line : ErrorLine) : Prop :=
  Text.ofString "error: " <+: line.text

/-- The outcomes that follow from what a command came to. -/
inductive Follows (c : Command) : Except Hindrance Text → Outcome → Prop
  | done (output : Text) (errors : List ErrorLine) (sent : List Http.Request)
      (listening? : Option Listening) :
      Follows c (.ok output) ⟨.ok 0, output, errors, sent, listening?⟩
  | reported {hindrance : Hindrance} {errors : List ErrorLine} {sent : List Http.Request}
      (hexpected : ∀ cause, ¬ Escapes c hindrance cause) (hline : ∃ line ∈ errors, line.IsFailure)
      (hunsent : hindrance.isUnsent = true → sent = []) :
      Follows c (.error hindrance) ⟨.ok 2, [], errors, sent, none⟩
  | escaped {hindrance : Hindrance} {cause : Escape} {errors : List ErrorLine}
      {sent : List Http.Request} {listening? : Option Listening}
      (hescapes : Escapes c hindrance cause) (hunsent : hindrance.isUnsent = true → sent = []) :
      Follows c (.error hindrance) ⟨.error cause, [], errors, sent, listening?⟩

variable {c : Command}

/-- The line of a failure says what went wrong. -/
theorem isFailure_failure (message : Text) : (ErrorLine.failure message).IsFailure :=
  ⟨message, rfl⟩

/-- So does the line of a key that cannot be loaded. -/
theorem isFailure_keyFailure (path : Text) (fault : KeyFault) :
    (ErrorLine.keyFailure path fault).IsFailure :=
  ⟨_, rfl⟩

/-- A failure before the task follows from an obstacle that is expected. -/
theorem follows_failed {obstacle : Obstacle} {line : ErrorLine} (hline : line.IsFailure)
    (hexpected : ∀ cause, ¬ Escapes c (.early obstacle) cause) :
    Follows c (.error (.early obstacle)) (.failed line) :=
  .reported hexpected ⟨line, List.mem_singleton_self line, hline⟩ fun _ => rfl

/-- What escapes before the task follows from an obstacle that is not expected. -/
theorem follows_escaped {obstacle : Obstacle} {cause : Escape}
    (h : Escapes c (.early obstacle) cause) :
    Follows c (.error (.early obstacle)) (.escaped cause) :=
  .escaped h fun _ => rfl

/-! ### Obstacles -/

/-- What an obstacle before the task comes to follows from it. -/
theorem follows_early (obstacle : Obstacle) :
    Follows c (.error (.early obstacle)) obstacle.outcome := by
  fun_cases Obstacle.outcome obstacle with
  | case1 fault => exact follows_failed (isFailure_failure fault.message) nofun
  | case2 path identifier => exact follows_escaped (.curve path identifier)
  | case3 path fault hcurve =>
      refine follows_failed (isFailure_keyFailure path.shown fault) fun cause hescapes => ?_
      cases hescapes with
      | curve _ identifier => exact hcurve identifier rfl
  | case4 fault => exact follows_escaped (.number fault)
  | case5 error => exact follows_failed (isFailure_failure error.message) nofun
  | case6 error hname =>
      refine follows_failed (isFailure_failure error.message) fun cause hescapes => ?_
      cases hescapes with
      | selfTest fault => cases hname
  | case7 error hname =>
      obtain ⟨fault, rfl⟩ := CodecError.exists_sizeNotShown (Bool.eq_false_iff.mpr hname)
      exact follows_escaped (.selfTest fault)
  | case8 words => exact follows_failed (isFailure_failure _) nofun
  | case9 fault hreports =>
      refine follows_failed (isFailure_failure fault.message) fun cause hescapes => ?_
      cases hescapes with
      | startup hfault => cases hreports.symm.trans hfault
  | case10 fault hreports => exact follows_escaped (.startup (Bool.eq_false_iff.mpr hreports))
  | case11 fault hother =>
      refine follows_failed (isFailure_failure fault.message) fun cause hescapes => ?_
      cases hescapes with
      | startup _ => exact hother _ rfl

/-! ### Tasks -/

/-- How requests are posted. -/
def post (w : World) (endpoint : Http.Endpoint) (e : EncodedRequest) : Http.Delivery :=
  endpoint.post w.network e.path e.body e.contentType

/-- The tasks that a command may come to: a request has the text of the command, and both keys. -/
inductive Task.Suits (c : Command) : Task → Prop
  | request {d : Deployment} {endpoint : Http.Endpoint} {text : Text} (hd : d.Complete)
      (hrequest : c.request? = some text) : Suits c (.request d endpoint text)
  | report (line : Text) : Suits c (.report line)
  | serve (server : Server) (listening : Listening) : Suits c (.serve server listening)

variable [Json.NestingLimit]

/-- The output of a task, or what stops it. A service has no output of its own. -/
def Task.attempt (w : World) : Task → Except Hindrance Text
  | .request d endpoint text =>
      ((d.stages w.coins (post w endpoint) (.text text)).mapError .call).map fun plaintext =>
        Utf8.decodeLossy plaintext ++ Text.ofString "\n"
  | .report line => .ok (line ++ Text.ofString "\n")
  | .serve server listening => ((server listening).mapError .serving).map fun _ => []

/-- The output of a command, or what stops it. -/
def Command.attempt (w : World) (logLevel : Text) (c : Command) : Except Hindrance Text :=
  ((c.prepare w logLevel).mapError .early).bind (Task.attempt w)

/-- What a call comes to follows from its stages. -/
theorem follows_request (w : World) (threshold : Nat) {d : Deployment} (hd : d.Complete)
    (endpoint : Http.Endpoint) {text : Text} (hrequest : c.request? = some text) :
    Follows c ((Task.request d endpoint text).attempt w) (request w threshold d endpoint text) := by
  obtain ⟨hresult, hsent⟩ := Client.callVia_ofDeployment d w.coins .post
    (post w endpoint) (.text text)
  unfold Task.attempt request Client.call
  unfold post at hresult hsent ⊢
  simp only [hresult]
  cases hstages : d.stages w.coins
    (fun e => endpoint.post w.network e.path e.body e.contentType) (.text text) with
  | ok plaintext => exact .done _ _ _ _
  | error stop =>
      have hunnamed := Deployment.unnamed_iff_of_stages hd hstages
      change Follows c (.error (.call stop)) (if stop.error.isNamed = true then _ else _)
      split
      · rename_i hname
        refine .reported (fun cause hescapes => ?_) ?_ (hsent stop hstages)
        · cases hescapes with
          | call _ hunnamed => cases hname.symm.trans hunnamed.isNamed_eq_false
        · exact ⟨_, List.mem_append_right _ (List.mem_singleton_self _),
            isFailure_failure stop.error.message⟩
      · rename_i hname
        exact .escaped (.call hrequest (hunnamed.mp (Bool.eq_false_iff.mpr hname)))
          (hsent stop hstages)

/-- What a task comes to follows from it. -/
theorem follows_task (w : World) (threshold : Nat) {task : Task} (h : task.Suits c) :
    Follows c (task.attempt w) (task.outcome w threshold) := by
  cases h with
  | request hd hrequest => exact follows_request w threshold hd _ hrequest
  | report line => exact .done _ _ _ _
  | serve server listening =>
      rw [Task.attempt, Task.outcome]
      cases server listening with
      | ok returned => exact .done _ _ _ _
      | error words => exact .escaped (.serving words) fun _ => rfl

/-! ### Commands -/

/-- The task that a command comes to is one that suits it. -/
theorem suits_of_prepare (w : World) (logLevel : Text) (c : Command) :
    Except.Returns (Task.Suits c) (c.prepare w logLevel) := by
  intro task hprepare
  cases c with
  | encryptedRequest target clientKey? options =>
      obtain ⟨choices, -, hprepare⟩ := Except.bind_eq_ok_iff.mp hprepare
      obtain ⟨key, -, hprepare⟩ := Except.bind_eq_ok_iff.mp hprepare
      obtain ⟨reading, -, hprepare⟩ := Except.bind_eq_ok_iff.mp hprepare
      obtain ⟨endpoint, -, hprepare⟩ := Except.bind_eq_ok_iff.mp hprepare
      obtain ⟨deployment, hcreate, hprepare⟩ := Except.bind_eq_ok_iff.mp hprepare
      obtain ⟨keySize, -, hprepare⟩ := Except.bind_eq_ok_iff.mp hprepare
      obtain rfl := Deployment.eq_of_create (Except.mapError_eq_ok_iff.mp hcreate)
      obtain rfl := Except.ok.inj hprepare
      exact .request ⟨⟨_, rfl⟩, ⟨_, rfl⟩, ⟨_, rfl⟩⟩ rfl
  | signedRequest target options =>
      obtain ⟨choices, -, hprepare⟩ := Except.bind_eq_ok_iff.mp hprepare
      obtain ⟨key, -, hprepare⟩ := Except.bind_eq_ok_iff.mp hprepare
      obtain ⟨endpoint, -, hprepare⟩ := Except.bind_eq_ok_iff.mp hprepare
      obtain ⟨keySize, -, hprepare⟩ := Except.bind_eq_ok_iff.mp hprepare
      obtain rfl := Except.ok.inj hprepare
      exact .request ⟨⟨_, rfl⟩, ⟨_, rfl⟩, ⟨_, rfl⟩⟩ rfl
  | selfTest keyFile options =>
      obtain ⟨choices, -, hprepare⟩ := Except.bind_eq_ok_iff.mp hprepare
      obtain ⟨key, -, hprepare⟩ := Except.bind_eq_ok_iff.mp hprepare
      obtain ⟨passed, -, hprepare⟩ := Except.bind_eq_ok_iff.mp hprepare
      obtain rfl := Except.ok.inj hprepare
      exact .report _
  | serve host port =>
      obtain ⟨server, -, hprepare⟩ := Except.bind_eq_ok_iff.mp hprepare
      obtain ⟨service, -, hprepare⟩ := Except.bind_eq_ok_iff.mp hprepare
      obtain ⟨number, -, hprepare⟩ := Except.bind_eq_ok_iff.mp hprepare
      obtain rfl := Except.ok.inj hprepare
      exact .serve _ _

/-- **Every outcome follows from the stages of its command.** -/
theorem follows_runCommand (w : World) (logLevel : Text) (threshold : Nat) (c : Command) :
    Follows c (c.attempt w logLevel) (runCommand w logLevel threshold c) := by
  rw [Command.attempt, runCommand]
  cases hprepare : c.prepare w logLevel with
  | ok task => exact follows_task w threshold (suits_of_prepare w logLevel c task hprepare)
  | error obstacle => exact follows_early obstacle

end SealedRpc.CommandLine
