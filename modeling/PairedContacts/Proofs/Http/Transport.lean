import PairedContacts.Proofs.Http.Posted
import PairedContacts.Proofs.Http.Tellable

/-!
# The transport is transparent

A packet that is posted to a server comes to the same end as one that is given to the dispatcher of
the server.  An answer comes back as it was, and a failure as the status of its kind, without its
own words if they are not for the requester.
-/

set_option autoImplicit false

namespace PairedContacts.Server

/-- Whether a server is trusted under the host that a request names. -/
def trusts (settings : Settings) (host : String) : Bool :=
  (trustedHosts settings).all TrustedHosts.isPattern &&
    ((trustedHosts settings).isEmpty ||
      TrustedHosts.judge (trustedHosts settings) host == .trusted)

/-- What is told of a failure whose own words are not for the requester. -/
def discreetText : FailureKind -> String
  | .permissionDenied => "Contacts access not granted"
  | .sourceUnavailable => "Contacts source unavailable"
  | .database => "Database temporarily unavailable"
  | _ => "Internal server error"

/-- A response that tells a failure: by the status of its kind, and where the words of the failure
are not for the requester by a text that depends on nothing but the kind. -/
structure Tells (failure : Failure) (response : HttpResponse) : Prop where
  status : status? failure.kind = some response.status
  discreet : response.status ∈ [403, 500, 503] ->
    response.content = .document (.map [("detail", .text (discreetText failure.kind))])

/-! ## From a request to the dispatcher -/

variable {server : Server} {request : HttpRequest} {packet : Packet} {now : Int}

theorem answer_of_trusts (trusted : trusts server.settings request.host = true) :
    server.answer now request = (do
      let response <- server.serve now request
      return response.finish request) := by
  rw [trusts, Bool.and_eq_true, List.all_eq_true] at trusted
  obtain ⟨patterns, named⟩ := trusted
  have valid :
      (trustedHosts server.settings).find? (fun name => !TrustedHosts.isPattern name) = none := by
    simpa using patterns
  rw [answer, valid]
  cases unnamed : (trustedHosts server.settings).isEmpty with
  | true => simp
  | false =>
      rw [unnamed, Bool.false_or, beq_iff_eq] at named
      simp [named]

theorem serve_of_posts (posts : request.Posts packet) :
    server.serve now request = answering request (server.answerPacket now request) := by
  have found : Route.at? request.path = some .packets := by
    rw [posts.path]
    decide
  rw [serve, found]
  simp only [posts.method, if_true]
  rfl

theorem answerPacket_of_isPostable (postable : packet.IsPostable) (posts : request.Posts packet) :
    server.answerPacket now request = (do
      let answer <- server.dispatcher.dispatch ⟨server.store.source, now⟩ packet
      return .document 200 answer.toValue) := by
  rw [answerPacket, PacketBody.read_of_isPostable postable posts]

theorem answerPacket_of_isOverlong (overlong : packet.toValue.IsOverlong .standard)
    (posts : request.Posts packet) :
    server.answerPacket now request =
      pure (.detail 400 "There was an error parsing the body") := by
  rw [answerPacket, PacketBody.read_of_isOverlong overlong posts]

/-! ## From the dispatcher to a response -/

theorem failureAnswer?_of_status {failure : Failure} {status : Nat}
    (known : status? failure.kind = some status) :
    ∃ message, failureAnswer? failure = some (.detail status message) ∧
      (status ∈ [403, 500, 503] -> message = discreetText failure.kind) := by
  rw [failureAnswer?]
  generalize failure.kind = kind at known ⊢
  cases kind with
  | unsupportedType => cases known; exact ⟨_, rfl, by simp⟩
  | malformedRequest => cases known; exact ⟨_, rfl, by simp⟩
  | permissionDenied | sourceUnavailable | database | internal =>
      cases known
      exact ⟨_, rfl, fun _ => rfl⟩
  | _ => cases known

theorem answering_of_ok {run : Run HttpResponse} {response : HttpResponse}
    (done : run.outcome = .ok response) : answering request run = run := by
  rw [answering, done]

theorem outcome_answering_of_error {run : Run HttpResponse} {failure : Failure}
    {response : HttpResponse} (failed : run.outcome = .error failure)
    (told : failureAnswer? failure = some response) :
    (answering request run).outcome = .ok response := by
  rw [answering, failed]
  simp only [told]

theorem finish_of_posts (posts : request.Posts packet) (response : HttpResponse) :
    (response.finish request).status = response.status ∧
      (response.finish request).content = response.content := by
  have asked : request.method ≠ "HEAD" := by
    rw [posts.method]
    decide
  rw [HttpResponse.finish, if_neg asked]
  split <;> exact ⟨rfl, rfl⟩

section Posted

variable (trusted : trusts server.settings request.host = true) (postable : packet.IsPostable)
  (posts : request.Posts packet)

include trusted postable posts

theorem outcome_answer_of_ok {answer : Packet}
    (dispatched : (server.dispatcher.dispatch ⟨server.store.source, now⟩ packet).outcome =
      .ok answer) :
    (server.answer now request).outcome =
      .ok ((HttpResponse.document 200 answer.toValue).finish request) := by
  have done : (server.answerPacket now request).outcome = .ok (.document 200 answer.toValue) := by
    rw [answerPacket_of_isPostable postable posts, Run.outcome_bind_ok dispatched]
    rfl
  rw [answer_of_trusts trusted, serve_of_posts posts, answering_of_ok done,
    Run.outcome_bind_ok done]
  rfl

theorem outcome_answer_of_error {failure : Failure} {response : HttpResponse}
    (dispatched : (server.dispatcher.dispatch ⟨server.store.source, now⟩ packet).outcome =
      .error failure)
    (told : failureAnswer? failure = some response) :
    (server.answer now request).outcome = .ok (response.finish request) := by
  have failed : (server.answerPacket now request).outcome = .error failure := by
    rw [answerPacket_of_isPostable postable posts, Run.bind_error dispatched]
  rw [answer_of_trusts trusted, serve_of_posts posts,
    Run.outcome_bind_ok (outcome_answering_of_error failed told)]
  rfl

/-- A posted packet that comes to an end which a requester can be told is answered by that end. -/
theorem exists_answer_of_isTellable
    (told : IsTellable (server.dispatcher.dispatch ⟨server.store.source, now⟩ packet).outcome) :
    ∃ response, (server.answer now request).outcome = .ok response ∧
      ((∃ answer, (server.dispatcher.dispatch ⟨server.store.source, now⟩ packet).outcome =
          .ok answer ∧ answer.IsPortable ∧ response.status = 200 ∧
          response.content = .document answer.toValue) ∨
        ∃ failure, (server.dispatcher.dispatch ⟨server.store.source, now⟩ packet).outcome =
          .error failure ∧ Tells failure response) := by
  cases dispatched :
      (server.dispatcher.dispatch ⟨server.store.source, now⟩ packet).outcome with
  | ok answer =>
      rw [dispatched] at told
      have answered := outcome_answer_of_ok trusted postable posts dispatched
      obtain ⟨status, content⟩ := finish_of_posts posts (.document 200 answer.toValue)
      cases told with
      | answer readable => exact ⟨_, answered, .inl ⟨answer, rfl, readable, status, content⟩⟩
  | error failure =>
      rw [dispatched] at told
      cases told with
      | failure known =>
          obtain ⟨code, known⟩ := Option.isSome_iff_exists.mp known
          obtain ⟨message, written, discreet⟩ := failureAnswer?_of_status known
          have answered := outcome_answer_of_error trusted postable posts dispatched written
          obtain ⟨status, content⟩ := finish_of_posts posts (.detail code message)
          refine ⟨_, answered, .inr ⟨failure, rfl, ?_, fun kept => ?_⟩⟩
          · rw [status]
            exact known
          · rw [status] at kept
            rw [content, HttpResponse.detail, HttpResponse.document, discreet kept]

end Posted

/-! ## Servers with plugins -/

/-- A server that answers by the contacts service and by further plugins. -/
def assembleWith (settings : Settings) (store : Store) (plugins : List Plugin) : Run Server := do
  let server <- assemble settings store
  plugins.foldlM addPlugin server

theorem outcome_assemble (settings : Settings) (store : Store) :
    (assemble settings store).outcome = .ok ⟨settings, store, settings.service.dispatcher⟩ := by
  rw [assemble]
  split <;> rfl

theorem eq_of_addPlugin {plugin : Plugin} {after : Server}
    (added : (server.addPlugin plugin).outcome = .ok after) :
    after = { server with dispatcher := (server.dispatcher.register plugin).1 } := by
  rw [addPlugin] at added
  cases outcome : (server.dispatcher.register plugin).2 with
  | error fault =>
      simp only [outcome] at added
      cases added
  | ok _ =>
      simp only [outcome] at added
      cases added
      rfl

/-- Handlers that keep to what a requester can be told stay so as plugins are added. -/
theorem areTellable_of_addPlugins {around : Surroundings} {plugins : List Plugin}
    (told : ∀ plugin ∈ plugins, AreTellable around plugin.handlers)
    (held : AreTellable around server.dispatcher.handlers) {after : Server}
    (added : (plugins.foldlM addPlugin server).outcome = .ok after) :
    after.settings = server.settings ∧ after.store = server.store ∧
      AreTellable around after.dispatcher.handlers := by
  let keeps (other : Server) : Prop := other.settings = server.settings ∧
    other.store = server.store ∧ AreTellable around other.dispatcher.handlers
  have step (state : Server) (plugin : Plugin) (next : Server) (member : plugin ∈ plugins)
      (kept : keeps state) (taken : (state.addPlugin plugin).outcome = .ok next) : keeps next := by
    obtain ⟨settings, store, all⟩ := kept
    rw [eq_of_addPlugin taken]
    exact ⟨settings, store, all.register (told plugin member)⟩
  show keeps after
  exact Run.holds_of_foldlM step ⟨rfl, rfl, held⟩ added

theorem areTellable_of_assembleWith {settings : Settings} {store : Store} {plugins : List Plugin}
    (settled : settings.service.sender.IsSettled) (sound : store.IsSound)
    (punctual : Packet.dialect.admits now = true)
    (told : ∀ plugin ∈ plugins, AreTellable ⟨store.source, now⟩ plugin.handlers)
    (assembled : (assembleWith settings store plugins).outcome = .ok server) :
    server.settings = settings ∧ server.store = store ∧
      AreTellable ⟨store.source, now⟩ server.dispatcher.handlers := by
  rw [assembleWith, Run.outcome_bind_ok (outcome_assemble settings store)] at assembled
  refine areTellable_of_addPlugins told ?_ assembled
  have none : AreTellable ⟨store.source, now⟩ Dispatcher.empty.handlers := by
    simp [AreTellable, Dispatcher.empty]
  exact none.register (ContactsService.areTellable_plugin settled sound.source punctual)

/-- A server that was assembled from loaded settings, with the contacts service alone or with plugins
that keep to what a requester can be told, answers each packet that can be posted, under a trusted
host.  The status is that of a success exactly if the dispatcher answers, and then the
answer is read from the content of the response as it was.  Otherwise the status is that of the kind
of the failure, and where this is the status of a refusal or of a fault of the server, the content
does not depend on the words of the failure. -/
theorem transport_is_transparent {values : KeyedList String Value}
    {environment : KeyedList String String} {settings : Settings}
    (loaded : Settings.load values environment = .ok settings) {store : Store}
    (sound : store.IsSound) {now : Int} (punctual : Packet.dialect.admits now = true)
    {plugins : List Plugin}
    (told : ∀ plugin ∈ plugins, AreTellable ⟨store.source, now⟩ plugin.handlers)
    {server : Server} (assembled : (assembleWith settings store plugins).outcome = .ok server)
    {packet : Packet} (postable : packet.IsPostable) {request : HttpRequest}
    (posts : request.Posts packet) (trusted : trusts settings request.host = true) (later : Int) :
    let dispatched := (server.dispatcher.dispatch ⟨store.source, now⟩ packet).outcome
    ∃ response, (server.answer now request).outcome = .ok response ∧
      (response.status = 200 ↔ ∃ answer, dispatched = .ok answer) ∧
      (∀ answer, dispatched = .ok answer ->
        Packet.ofBytes later response.content.bytes = .ok answer) ∧
      ∀ failure, dispatched = .error failure -> Tells failure response := by
  intro dispatched
  have settled := Settings.isSettled_of_load loaded
  obtain ⟨rfl, rfl, held⟩ := areTellable_of_assembleWith settled sound punctual told assembled
  obtain ⟨response, answered, ends⟩ :=
    exists_answer_of_isTellable trusted postable posts (held.dispatch postable)
  refine ⟨response, answered, ?_⟩
  rcases ends with ⟨answer, ended, readable, status, content⟩ | ⟨failure, ended, tells⟩
  · have same : dispatched = .ok answer := ended
    rw [same, content]
    simpa [status] using readable.ofBytes_document later
  · have same : dispatched = .error failure := ended
    have unsuccessful : response.status ≠ 200 := by
      intro status
      have known := tells.status
      rw [status] at known
      generalize failure.kind = kind at known
      cases kind <;> cases known
    rw [same]
    simpa [unsuccessful] using tells

/-- Settings for a device that is debugged. -/
def debugSettings : Settings where
  debug := true
  databaseUrl := "sqlite+aiosqlite:///data/db/contacts.db"
  host := "0.0.0.0"
  port := 8000
  trustedHosts := []
  deviceId := "phone"
  deviceName := "contactsync"
  space := VCard.defaultNamespace
  layout := .standard
  accessGranted := true

/-- A request that posts a packet under a host which is trusted in debugging. -/
def requestOf (packet : Packet) : HttpRequest where
  method := "POST"
  path := "/api/packets"
  query := []
  headers := [("Content-Type", "application/json")]
  host := "test"
  body := packet.serialize

def echoPacket : Packet :=
  ⟨2, "echo", [], ne_of_beq_false rfl⟩

/-- A plugin that answers by a packet whose type it does not declare. -/
def echoPlugin : Plugin :=
  ⟨"Echo", ["echo"], [], [("echo", fun _ _ => pure echoPacket)]⟩

/-- A table of one contact. -/
def oneContact : StoredTable :=
  ⟨"raw_contacts", [.declare "lookup_key" "TEXT", .declare "last_updated_timestamp" "BIGINT"],
    [⟨1, [some (.text "alice"), some (.integer 7)]⟩]⟩

theorem posts_requestOf (packet : Packet) : (requestOf packet).Posts packet where
  method := rfl
  path := rfl
  announced := (by decide : PacketBody.isDocumentType "application/json" = true)
  body := rfl

theorem transport_is_transparent_oneContact :
    ∃ server answer, (assembleWith debugSettings (.reachable [oneContact]) [echoPlugin]).outcome =
        .ok server ∧ answer.body.keys = ["uids", "alice"] ∧
      (∃ response, (server.answer 5 (requestOf (Message.requestManifest 1))).outcome =
          .ok response ∧ response.status = 200 ∧
            Packet.ofBytes 9 response.content.bytes = .ok answer) ∧
      ∃ response, (server.answer 5 (requestOf echoPacket)).outcome = .ok response ∧
        Tells (.undeclaredAnswer "echo" "echo") response := by
  let store : Store := .reachable [oneContact]
  let server : Server := ⟨debugSettings, store,
    (debugSettings.service.dispatcher.register echoPlugin).1⟩
  have loaded : Settings.load [("debug", .bool true), ("device_id", .text "phone")] [] =
      .ok debugSettings := rfl
  have sound : store.IsSound := by
    simp [store, Store.IsSound, Database.FitsCells, oneContact, Stored.fits, Affinity.fitsCell,
      wordBound]
  have punctual : Packet.dialect.admits 5 = true := by decide +kernel
  have echoing : echoPacket.IsPortable := ⟨by decide +kernel, by decide +kernel, by decide +kernel⟩
  have told : ∀ plugin ∈ [echoPlugin], AreTellable ⟨store.source, 5⟩ plugin.handlers := by
    simp only [List.forall_mem_singleton, AreTellable, echoPlugin]
    exact fun _ _ => .answer echoing
  have assembled : (assembleWith debugSettings store [echoPlugin]).outcome = .ok server := rfl
  have trusted : trusts debugSettings "test" = true := by decide
  have asking : (Message.requestManifest 1).IsPortable :=
    Message.isPortable_requestManifest (by decide +kernel)
  have listed : (server.dispatcher.dispatch ⟨store.source, 5⟩
      (Message.requestManifest 1)).outcome.toOption.map (fun answer => answer.body.keys) =
        some ["uids", "alice"] := by
    decide +kernel
  have undeclared : (server.dispatcher.dispatch ⟨store.source, 5⟩ echoPacket).outcome =
      .error (.undeclaredAnswer "echo" "echo") := rfl
  obtain ⟨response, answered, success, same, -⟩ := transport_is_transparent loaded sound punctual
    told assembled asking.isPostable (posts_requestOf _) trusted 9
  obtain ⟨other, refused, -, -, tells⟩ := transport_is_transparent loaded sound punctual told
    assembled echoing.isPostable (posts_requestOf _) trusted 9
  cases dispatched : (server.dispatcher.dispatch ⟨store.source, 5⟩
      (Message.requestManifest 1)).outcome with
  | error failure =>
      rw [dispatched] at listed
      cases listed
  | ok answer =>
      rw [dispatched] at listed
      exact ⟨server, answer, assembled, Option.some.inj listed,
        ⟨response, answered, success.mpr ⟨answer, dispatched⟩, same answer dispatched⟩,
        other, refused, tells _ undeclared⟩

/-! ## A packet that is not read -/

/-- A posted packet with an integer that is too long does not come to the dispatcher, and nothing is
asked of the store. -/
theorem exists_answer_of_isOverlong (trusted : trusts server.settings request.host = true)
    (overlong : packet.toValue.IsOverlong .standard) (posts : request.Posts packet) :
    ∃ response, server.answer now request = pure response ∧ response.status = 400 := by
  rw [answer_of_trusts trusted, serve_of_posts posts, answerPacket_of_isOverlong overlong posts,
    answering_of_ok rfl, pure_bind]
  exact ⟨_, rfl, (finish_of_posts posts _).1⟩

/-- A request for the manifest with an integer in it that is one digit too long. -/
def longPacket : Packet :=
  (Message.requestManifest 1).set "n" (.int (tenTo 4300))

/-- The dispatcher answers this packet, but a server that it is posted to does not read it. -/
theorem longPacket_is_dispatched_and_not_read :
    ∃ server answer response,
      Settings.load [("debug", .bool true), ("device_id", .text "phone")] [] = .ok debugSettings ∧
      (assembleWith debugSettings (.reachable (Database.withContacts [])) []).outcome =
        .ok server ∧
      trusts debugSettings (requestOf longPacket).host = true ∧
      (requestOf longPacket).Posts longPacket ∧
      longPacket.body = [("n", .int (tenTo 4300))] ∧
      longPacket.toValue.height ≤ Packet.maxDepth ∧
      (server.dispatcher.dispatch ⟨server.store.source, 0⟩ longPacket).outcome = .ok answer ∧
      (server.answer 0 (requestOf longPacket)).outcome = .ok response ∧ response.status = 400 := by
  have trusted : trusts debugSettings (requestOf longPacket).host = true := by decide
  have posts := posts_requestOf longPacket
  have overlong : longPacket.toValue.IsOverlong .standard := by
    have long : Json.Dialect.standard.admits (tenTo 4300) = false := by decide +kernel
    have body : longPacket.body = [] ++ ("n", .int (tenTo 4300)) :: [] := rfl
    exact Packet.isOverlong_of_body (by decide +kernel) body rfl (.int long)
  let server : Server := ⟨debugSettings, .reachable (Database.withContacts []),
    debugSettings.service.dispatcher⟩
  have answered :
      (server.dispatcher.dispatch ⟨server.store.source, 0⟩ longPacket).outcome.isOk = true := by
    decide +kernel
  have shallow : longPacket.toValue.height ≤ Packet.maxDepth := by decide +kernel
  obtain ⟨response, refused, status⟩ : ∃ response,
      server.answer 0 (requestOf longPacket) = pure response ∧ response.status = 400 :=
    exists_answer_of_isOverlong trusted overlong posts
  cases dispatched : (server.dispatcher.dispatch ⟨server.store.source, 0⟩ longPacket).outcome with
  | error failure =>
      rw [dispatched] at answered
      cases answered
  | ok answer =>
      exact ⟨server, answer, response, rfl, rfl, trusted, posts, rfl, shallow, dispatched,
        by rw [refused]; rfl, status⟩

end PairedContacts.Server
