import SealedRpc.Proofs.Exchange.Hops
import SealedRpc.Proofs.Relay.Rejection
import SealedRpc.Proofs.Text.Parts

/-!
# The list of allowed methods

An operator writes the methods that a relay lets through as a list with commas. Its parts count
without the white space around them, and blank parts do not count at all. Reading the list takes
white space off its ends first and then splits it: that comes to the same as splitting the list as
it was written, for only its first and its last part change, and in white space.

So what a list lets through is said by its parts, `Admits`, and other ways to write the same list
are told by their parts too, `Respelled`.

## Main results

* `mem_allowedMethods_iff`: the methods that are read are those that the parts spell.
* `Respelled.admits_iff`: other ways to write a list admit the same.
* `Relay.Service.checkMethod_eq_ok_iff_admits`: which methods pass the check of a relay.
* `Relay.Service.allowlist_means`: what reaches the handler of a relay, and what is refused.
-/

namespace SealedRpc

variable {parts parts' : List Text} {part method : Text}

/-! ### What a list says -/

/-- Whether a part of a list is a method in white space. -/
def Spells (part method : Text) : Prop := ¬ part.IsBlank ∧ part.trim = method

/-- Whether one of the parts of a list is a method in white space. -/
def Lists (parts : List Text) (method : Text) : Prop := ∃ part ∈ parts, Spells part method

/-- Whether the parts of a list let a request through whose method is a text or missing: all of
them are blank, or the method is there and one of them, without the white space around it. -/
def Admits (parts : List Text) (method? : Option Text) : Prop :=
  (∀ part ∈ parts, part.IsBlank) ∨
    ∃ part ∈ parts, ¬ part.IsBlank ∧ method? = some part.trim

/-- The method that a part spells is not empty. -/
theorem spells_iff : Spells part method ↔ method ≠ [] ∧ part.trim = method := by
  constructor
  · rintro ⟨hblank, rfl⟩
    exact ⟨fun h => hblank (Text.trim_eq_nil_iff.mp h), rfl⟩
  · rintro ⟨hne, rfl⟩
    exact ⟨fun h => hne (Text.trim_eq_nil_iff.mpr h), rfl⟩

/-- White space before a part does not change what it spells. -/
theorem spells_append_left {before : Text} (hbefore : before.IsBlank) :
    Spells (before ++ part) method ↔ Spells part method := by
  rw [spells_iff, spells_iff, Text.trim_append_left hbefore]

/-- White space after a part does not change what it spells. -/
theorem spells_append_right {after : Text} (hafter : after.IsBlank) :
    Spells (part ++ after) method ↔ Spells part method := by
  rw [spells_iff, spells_iff, Text.trim_append_right hafter]

/-- What a list says is what its first part spells and what the others say. -/
theorem lists_cons : Lists (part :: parts) method ↔ Spells part method ∨ Lists parts method := by
  simp only [Lists, List.exists_mem_cons_iff]

/-- What a list lets through, by what it says. -/
theorem admits_iff_lists {method? : Option Text} : Admits parts method? ↔
    (∀ method, ¬ Lists parts method) ∨ ∃ method, Lists parts method ∧ method? = some method := by
  refine or_congr ⟨?_, ?_⟩ ⟨?_, ?_⟩
  · rintro hblank method ⟨part, hpart, hspells⟩
    exact hspells.1 (hblank part hpart)
  · intro hnone part hpart
    by_contra hblank
    exact hnone part.trim ⟨part, hpart, hblank, rfl⟩
  · rintro ⟨part, hpart, hblank, rfl⟩
    exact ⟨part.trim, ⟨part, hpart, hblank, rfl⟩, rfl⟩
  · rintro ⟨_, ⟨part, hpart, hblank, rfl⟩, hmethod⟩
    exact ⟨part, hpart, hblank, hmethod⟩

/-- Lists that say the same let the same through. -/
theorem admits_congr (h : ∀ method, Lists parts method ↔ Lists parts' method)
    (method? : Option Text) : Admits parts method? ↔ Admits parts' method? := by
  simp only [admits_iff_lists, h]

/-! ### Reading a list -/

/-- White space after a list does not change what it says. -/
theorem lists_append_right {after : Text} (hafter : after.IsBlank) (list : Text) :
    Lists (Text.splitOn ',' (list ++ after)) method ↔ Lists (Text.splitOn ',' list) method := by
  have hcomma : (',' : CodePoint) ∉ after := fun h => absurd (hafter _ h) (by decide)
  induction list using Text.parts_induction ',' with
  | one part hpart =>
      have hwhole : (',' : CodePoint) ∉ part ++ after := by simp [hpart, hcomma]
      rw [Text.splitOn_eq, Text.splitOn_eq, List.splitOn_eq_singleton hwhole,
        List.splitOn_eq_singleton hpart, lists_cons, lists_cons, spells_append_right hafter]
  | more part rest hpart ih =>
      rw [Text.splitOn_eq, Text.splitOn_eq] at ih ⊢
      rw [List.append_assoc, List.cons_append, List.splitOn_append_cons_self_of_not_mem hpart,
        List.splitOn_append_cons_self_of_not_mem hpart, lists_cons, lists_cons]
      exact or_congr_right ih

/-- White space before a list does not change what it says. -/
theorem lists_append_left {before : Text} (hbefore : before.IsBlank) (list : Text) :
    Lists (Text.splitOn ',' (before ++ list)) method ↔ Lists (Text.splitOn ',' list) method := by
  have hcomma : (',' : CodePoint) ∉ before := fun h => absurd (hbefore _ h) (by decide)
  induction list using Text.parts_induction ',' with
  | one part hpart =>
      have hwhole : (',' : CodePoint) ∉ before ++ part := by simp [hpart, hcomma]
      rw [Text.splitOn_eq, Text.splitOn_eq, List.splitOn_eq_singleton hwhole,
        List.splitOn_eq_singleton hpart, lists_cons, lists_cons, spells_append_left hbefore]
  | more part rest hpart _ =>
      have hwhole : (',' : CodePoint) ∉ before ++ part := by simp [hpart, hcomma]
      rw [Text.splitOn_eq, Text.splitOn_eq, ← List.append_assoc,
        List.splitOn_append_cons_self_of_not_mem hwhole,
        List.splitOn_append_cons_self_of_not_mem hpart, lists_cons, lists_cons,
        spells_append_left hbefore]

/-- Taking white space off the ends of a list does not change what it says. -/
theorem lists_trim (list : Text) :
    Lists (Text.splitOn ',' list.trim) method ↔ Lists (Text.splitOn ',' list) method := by
  obtain ⟨before, after, hbefore, hafter, hlist⟩ := list.exists_eq_trim
  conv_rhs => rw [hlist]
  rw [lists_append_right hafter, lists_append_left hbefore]

/-- The list of allowed methods as it is written in an environment; unless it is, it is empty. -/
def Environment.allowlist (env : Environment) : Text :=
  (env.lookup ("MIRRORCRYPT_" ++ Text.ofString "ALLOWED_METHODS")).getD []

/-- The methods that a service reads from its environment are those that the parts of the list
spell. -/
theorem mem_allowedMethods_iff {env : Environment} {settings : ServiceSettings}
    (h : ServiceSettings.ofEnvironment env = .ok settings) :
    method ∈ settings.allowedMethods ↔ Lists (Text.splitOn ',' env.allowlist) method := by
  obtain ⟨scheme, -, h⟩ := Except.bind_eq_ok_iff.mp h
  obtain ⟨decoding, -, h⟩ := Except.bind_eq_ok_iff.mp h
  cases h
  have hread : method ∈ methodEntries env.allowlist.trim ↔
      Lists (Text.splitOn ',' env.allowlist.trim) method := by
    simp only [mem_methodEntries, Lists, spells_iff, ← exists_and_left, and_left_comm]
  exact hread.trans (lists_trim _)

/-! ### Other ways to write a list -/

/-- Other ways to write a list, by its parts: in another order, with a part once more, with a blank
part, with white space around a part, and all of this again and back. -/
inductive Respelled : List Text → List Text → Prop
  | reordered {parts parts' : List Text} : parts.Perm parts' → Respelled parts parts'
  | repeated {part : Text} {parts : List Text} : part ∈ parts → Respelled parts (part :: parts)
  | blank {part : Text} {parts : List Text} : part.IsBlank → Respelled parts (part :: parts)
  | spaced {before part after : Text} {parts : List Text} : before.IsBlank → after.IsBlank →
      Respelled (part :: parts) ((before ++ part ++ after) :: parts)
  | symm {parts parts' : List Text} : Respelled parts parts' → Respelled parts' parts
  | trans {parts parts' parts'' : List Text} : Respelled parts parts' →
      Respelled parts' parts'' → Respelled parts parts''

/-- Other ways to write a list say the same. -/
theorem Respelled.lists_iff (h : Respelled parts parts') (method : Text) :
    Lists parts method ↔ Lists parts' method := by
  induction h with
  | reordered hperm => exact exists_congr fun part => and_congr_left fun _ => hperm.mem_iff
  | repeated hpart =>
      rw [lists_cons]
      exact ⟨.inr, fun h => h.elim (fun hspells => ⟨_, hpart, hspells⟩) id⟩
  | blank hblank =>
      rw [lists_cons]
      exact ⟨.inr, fun h => h.resolve_left fun hspells => hspells.1 hblank⟩
  | spaced hbefore hafter =>
      rw [lists_cons, lists_cons, spells_append_right hafter, spells_append_left hbefore]
  | symm _ ih => exact ih.symm
  | trans _ _ ih ih' => exact ih.trans ih'

/-- Other ways to write a list let the same through. -/
theorem Respelled.admits_iff (h : Respelled parts parts') (method? : Option Text) :
    Admits parts method? ↔ Admits parts' method? :=
  admits_congr h.lists_iff method?

/-- Whether a text can stand in a list for itself: it is not empty, has no white space at its ends
and no comma in it. -/
structure IsName (name : Text) : Prop where
  ne_nil : name ≠ []
  trim : name.trim = name
  comma_not_mem : (',' : CodePoint) ∉ name

/-- Names that are joined with commas let just the names through. -/
theorem admits_join {names : List Text} (hne : names ≠ []) (hnames : ∀ name ∈ names, IsName name)
    (method? : Option Text) : Admits (Text.splitOn ',' (Text.join "," names)) method? ↔
      ∃ name ∈ names, method? = some name := by
  have hparts : Text.splitOn ',' (Text.join "," names) = names := by
    rw [Text.splitOn_eq]
    exact List.splitOn_intercalate _ (fun name h => (hnames name h).comma_not_mem) hne
  have hlists (method : Text) : Lists names method ↔ method ∈ names := by
    constructor
    · rintro ⟨name, hname, -, rfl⟩
      rwa [(hnames name hname).trim]
    · exact fun h => ⟨method, h, spells_iff.mpr ⟨(hnames method h).ne_nil, (hnames method h).trim⟩⟩
  obtain ⟨name, hname⟩ := List.exists_mem_of_ne_nil names hne
  rw [hparts, admits_iff_lists]
  simp only [hlists]
  exact or_iff_right fun hnone => hnone name hname

/-! ### Requests -/

namespace Relay.Service

variable {s : Service} {env : Environment} {settings : ServiceSettings}
  {fields : List (Text × Json)} {text : Text} {method? : Option Text}

/-- The check of the method passes exactly the methods that the list admits, of those that are texts
or missing. -/
theorem checkMethod_eq_ok_iff_admits
    (hsettings : ServiceSettings.ofEnvironment env = .ok s.settings)
    (hmethod : (Json.object fields).field? methodField = method?.map .text) :
    s.checkMethod (.object fields) = .ok () ↔
      Admits (Text.splitOn ',' env.allowlist) method? := by
  have hread (method : Text) : method ∈ s.settings.allowedMethods ↔
      Lists (Text.splitOn ',' env.allowlist) method :=
    mem_allowedMethods_iff hsettings
  have hlisted (method : Text) :
      (Json.object fields).field? methodField = some (.text method) ↔ method? = some method := by
    rw [hmethod]
    cases method? <;> simp
  simp only [checkMethod_eq_ok_iff, admits_iff_lists, hread, hlisted, ne_eq,
    List.eq_nil_iff_forall_not_mem]
  exact imp_iff_not_or.trans (or_congr_left not_not)

/-- A method that is a text or missing is not supported unless it passes. -/
theorem eq_of_checkMethod_of_text
    (hmethod : (Json.object fields).field? methodField = method?.map .text)
    (h : s.checkMethod (.object fields) ≠ .ok ()) :
    s.checkMethod (.object fields) = .error (.refused .unsupportedMethod) := by
  rw [checkMethod, hmethod] at h ⊢
  split
  · rename_i hempty
    exact absurd (if_pos hempty) h
  · rename_i hempty
    rw [if_neg hempty] at h
    cases method? with
    | none => rfl
    | some method =>
        dsimp only [Option.map_some] at h ⊢
        split
        · rename_i hlisted
          exact absurd (if_pos hlisted) h
        · rfl

/-- **The list of allowed methods.** Take a relay that was started in some environment, in which any
text may stand as the list of allowed methods, and a post that it vouches for with an object whose
method is a text or missing. The object reaches the handler exactly if every part of the list is
blank, or the method is one of the parts that are not, without the white space around that part; the
method itself is taken as it is. Otherwise nothing reaches the handler and the answer has the status
403.

The list written in another way decides the same: its parts in another order or more often, more
blank parts, more or less white space. And if the list is some names joined with commas, in whatever
order, then just the names reach the handler. -/
theorem allowlist_means [Json.NestingLimit] {startCoins coins : Coins} {files : Files}
    {provision : Provision} {framing : Framing} {call : Call}
    (hsettings : ServiceSettings.ofEnvironment env = .ok settings)
    (hstart : start startCoins env files settings provision = .ok s)
    (hposts : s.Posts framing call) (hvouched : Vouched s coins framing call.body text)
    (hparse : Json.parse text = .ok (.object fields))
    (hmethod : (Json.object fields).field? methodField = method?.map .text)
    (network : Http.Network) :
    let parts := Text.splitOn ',' env.allowlist
    let answer := s.answer coins network call
    (answer.served.handled = [.ofJson (.object fields)] ↔ Admits parts method?) ∧
    (¬ Admits parts method? → answer.served.handled = [] ∧ answer.response.status = 403) ∧
    (∀ parts', Respelled parts' parts →
      (answer.served.handled = [.ofJson (.object fields)] ↔ Admits parts' method?)) ∧
    ∀ names, names ≠ [] → (∀ name ∈ names, IsName name) → env.allowlist = Text.join "," names →
      (answer.served.handled = [.ofJson (.object fields)] ↔
        ∃ name ∈ names, method? = some name) := by
  intro parts answer
  obtain rfl := (checkKeys_of_start hstart).1
  have hpasses := checkMethod_eq_ok_iff_admits hsettings hmethod
  have hserved : answer.served = s.serveText coins network text :=
    hposts.dispatch_of_vouched hvouched
  have hrefused (h : ¬ Admits parts method?) :
      answer.served.handled = [] ∧ answer.response.status = 403 := by
    have hcheck := eq_of_checkMethod_of_text hmethod fun hok => h (hpasses.mp hok)
    have hauthorise : s.authorise text = .error (.refused .unsupportedMethod) := by
      rw [authorise, hparse]
      simp only [hcheck, Except.map]
    have hearly : answer.served = .early (.refused .unsupportedMethod) := by
      rw [hserved, serveText, hauthorise]
    have hresponse : answer.response
        = s.respond (requestId call.headers) answer.served.ending := rfl
    rw [hresponse, hearly]
    exact ⟨rfl, congrArg Response.status (respond_refused rfl _)⟩
  have hhandled : answer.served.handled = [.ofJson (.object fields)] ↔ Admits parts method? := by
    constructor
    · intro h
      by_contra hnot
      rw [(hrefused hnot).1] at h
      cases h
    · intro h
      have hauthorise : s.authorise text = .ok (.object fields) :=
        authorise_eq_ok_iff.mpr ⟨hparse, ⟨fields, rfl⟩, hpasses.mpr h⟩
      rw [hserved]
      exact handled_of_authorise hauthorise
  refine ⟨hhandled, hrefused, fun parts' h => hhandled.trans (h.admits_iff method?).symm,
    fun names hne hnames hjoined => ?_⟩
  have hnamed := admits_join hne hnames method?
  rw [← hjoined] at hnamed
  exact hhandled.trans hnamed

/-! ### A relay with a list -/

/-- An environment with a list in which a part is blank and two methods stand in white space. -/
def listingEnvironment : Environment :=
  [("MIRRORCRYPT_SCHEME", "pkcs1v15"), ("MIRRORCRYPT_KEY_SIZE", "14"),
    ("MIRRORCRYPT_RESPONSE_DECODING", "public-recover"),
    ("MIRRORCRYPT_ALLOWED_METHODS", " x , ,y")]

/-- The settings in that environment. -/
def listingSettings : ServiceSettings :=
  { smallSettings .publicRecover with allowedMethods := ["x", "y"] }

/-- They are what is read. -/
theorem ofEnvironment_listing :
    ServiceSettings.ofEnvironment listingEnvironment = .ok listingSettings := by
  decide +kernel

/-- A relay with these settings and valid keys that returns what it gets. -/
def listingRelay : Service :=
  ⟨listingSettings, .ofPrivate .sample, some (.ofPrivate .secondSample), .echo, 20⟩

/-- The keys of that relay pass its checks. -/
theorem start_listingRelay :
    start .constant listingEnvironment (Files.ofDirectory []) listingSettings
        ⟨some (.ofPrivate .sample), some (.ofPrivate .secondSample), some .echo⟩
      = .ok listingRelay := by
  have hsmall := ready_smallSettings .publicRecover
  have hready : Ready listingSettings (.ofPrivate .sample) (some (.ofPrivate .secondSample)) :=
    ⟨hsmall.hasPrivate, hsmall.recovery, hsmall.client, hsmall.usable, hsmall.clientUsable⟩
  exact start_of_ready hready (by decide +kernel) _ _ _

/-- A post with a text that is encrypted for that relay. -/
def sealedPost (text : Text) : Call :=
  ⟨"POST", "/encrypted-request", [], Codec.message .constant PrivateKey.sample.toPublic .pkcs1v15
    (text.flatMap CodePoint.utf8)⟩

/-- The relay vouches for the text in such a post, unless that has no octets or too many. -/
theorem vouched_sealedPost (text : Text) (hencodable : Utf8.encodable text = true)
    (hlength : (text.flatMap CodePoint.utf8).length ≤ 300) :
    listingRelay.Posts .encryptedBody (sealedPost text) ∧
      Vouched listingRelay .constant .encryptedBody (sealedPost text).body text := by
  have hsize : Scheme.pkcs1v15.overhead < PrivateKey.sample.toPublic.size := by decide +kernel
  have hdecrypted : Codec.decrypt .constant .single (sealedPost text).body (.ofPrivate .sample)
      .pkcs1v15 = .ok (text.flatMap CodePoint.utf8) :=
    Codec.decrypt_message PrivateKey.valid_sample hsize
      (Coins.blinds_constant PrivateKey.valid_sample.odd_modulus) .single _
  refine ⟨⟨ofPath?_path .encryptedBody, rfl, ?_⟩, .decrypted hdecrypted
    (Utf8.decode?_encode? (Utf8.encode?_eq_some_iff.mpr ⟨hencodable, rfl⟩))⟩
  have hoctets : PrivateKey.sample.toPublic.size = 14 := by decide +kernel
  have hoverhead : Scheme.pkcs1v15.overhead = 11 := rfl
  have hlimit : listingRelay.settings.bodyLimit = 4 * 1024 * 1024 := rfl
  rw [sealedPost, Codec.length_message hsize, hoctets, hoverhead, hlimit,
    Nat.ceilDiv_eq_add_pred_div]
  omega

/-- The text of an object whose method stands in the list. -/
def listedText : Text := "\x7b\"method\":\"x\"\x7d"

/-- A listed method reaches the handler, and an object without a method is answered with 403. -/
theorem allowlist_means_sample :
    ServiceSettings.ofEnvironment listingEnvironment = .ok listingSettings ∧
    start .constant listingEnvironment (Files.ofDirectory []) listingSettings
        ⟨some (.ofPrivate .sample), some (.ofPrivate .secondSample), some .echo⟩
      = .ok listingRelay ∧
    (listingRelay.answer .constant sampleNetwork (sealedPost listedText)).served.handled
      = [.ofJson (.object [(methodField, .text "x")])] ∧
    (listingRelay.answer .constant sampleNetwork (sealedPost "\x7b\x7d")).served.handled = [] ∧
    (listingRelay.answer .constant sampleNetwork (sealedPost "\x7b\x7d")).response.status
      = 403 := by
  obtain ⟨hlistedPosts, hlistedVouched⟩ :=
    vouched_sealedPost listedText (by decide +kernel) (by decide +kernel)
  obtain ⟨hemptyPosts, hemptyVouched⟩ :=
    vouched_sealedPost "\x7b\x7d" (by decide +kernel) (by decide +kernel)
  have hparts : Text.splitOn ',' listingEnvironment.allowlist = [" x ", " ", "y"] := by
    decide +kernel
  have hlistedParse : Json.parse listedText = .ok (.object [(methodField, .text "x")]) := by
    decide +kernel
  have hlistedMethod : (Json.object [(methodField, .text "x")]).field? methodField
      = (some (Text.ofString "x")).map .text := by
    decide +kernel
  have hemptyParse : Json.parse "\x7b\x7d" = .ok (.object []) := by decide +kernel
  have hemptyMethod : (Json.object []).field? methodField = (none : Option Text).map .text := rfl
  obtain ⟨hlisted, -⟩ := allowlist_means ofEnvironment_listing start_listingRelay hlistedPosts
    hlistedVouched hlistedParse hlistedMethod sampleNetwork
  obtain ⟨-, hrefused, -⟩ := allowlist_means ofEnvironment_listing start_listingRelay hemptyPosts
    hemptyVouched hemptyParse hemptyMethod sampleNetwork
  have hnotBlank : ¬ Text.IsBlank " x " := fun h => absurd (Text.trim_eq_nil_iff.mpr h) (by decide)
  refine ⟨ofEnvironment_listing, start_listingRelay, hlisted.mpr ?_, hrefused ?_⟩
  · rw [hparts]
    exact .inr ⟨" x ", List.mem_cons_self, hnotBlank, by decide +kernel⟩
  · rw [hparts]
    rintro (hblank | ⟨_, -, -, h⟩)
    · exact hnotBlank (hblank _ List.mem_cons_self)
    · cases h

end Relay.Service

end SealedRpc
