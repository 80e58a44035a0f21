import Larder.Proofs.Config.Acceptance
import Larder.Proofs.Config.NormalForm
import Larder.Proofs.Provider.Attempts
import Larder.Proofs.Url.Origin
import Larder.Provider.Resolution

/-!
# Where requests lead

A base address that is an origin is where requests lead, if the path behind it begins as a path, and a
request is kept back only for its header fields or for the origin itself (`Destined`). Of the two paths in a
configuration only that of the dictionary has to begin so (`ofBytes_destined`): one without a slash in front
is read as more of the host or of the port (`ofBytes_merges_path`).
-/

namespace Larder.Provider

/-- The requests that an exchange sends: none if there is a fault in what it would send, and otherwise one,
perhaps several times. -/
inductive Sends : Except ProviderError Request → List Request → Prop
  | nothing (fault : ProviderError) : Sends (.error fault) []
  | repeated (request : Request) (again : Nat) : Sends (.ok request) (List.replicate (again + 1) request)

def IsServed (origin : Url.Origin) : Prop :=
  ∃ site, origin.site = .ok site ∧ (site.scheme = "http" ∨ site.scheme = "https")

structure Destined (origin : Url.Origin) (headers : Except ProviderError Http.Headers) (sent : List Request) :
    Prop where
  atSite : ∀ request ∈ sent, origin.Names request.url
  keptBack : sent = [] ↔ headers.isOk = false ∨ ¬ IsServed origin

/-! ## Addresses -/

theorem address_of_origin {origin : Url.Origin} (wellFormed : origin.WellFormed) {path : String}
    (isBehind : Url.IsBehind path) :
    (∃ url, address origin.text path = .ok url ∧ IsServed origin ∧ origin.Names url) ∨
      (∃ fault, address origin.text path = .error fault) ∧ ¬ IsServed origin := by
  obtain ⟨place, parsed⟩ := Url.Origin.parse_append wellFormed isBehind
  unfold address
  rw [parsed]
  cases named : origin.site with
  | error fault => exact .inr ⟨⟨_, rfl⟩, fun ⟨_, found, _⟩ => nomatch named.symm.trans found⟩
  | ok site =>
      have reachable : isReachable (site.url place) = true ↔ site.scheme = "http" ∨ site.scheme = "https" := by
        simp [isReachable, Url.Site.url]
      change (∃ url, (if isReachable (site.url place) then _ else _) = _ ∧ _) ∨
        (∃ fault, (if isReachable (site.url place) then _ else _) = _) ∧ _
      by_cases web : isReachable (site.url place) = true
      · refine .inl ⟨site.url place, if_pos web, ⟨site, named, reachable.mp web⟩, site, named, rfl, rfl, rfl⟩
      · refine .inr ⟨⟨_, if_neg web⟩, fun ⟨other, found, served⟩ => web (reachable.mpr ?_)⟩
        obtain rfl := Except.ok.inj (named.symm.trans found)
        exact served

/-! ## Exchanges -/

theorem Sends.once (request : Request) : Sends (.ok request) [request] :=
  .repeated request 0

theorem Sends.eq_nil {fault : ProviderError} {sent : List Request} (sends : Sends (.error fault) sent) :
    sent = [] := by
  cases sends
  rfl

theorem Sends.again {request : Request} {sent : List Request} (sends : Sends (.ok request) sent) :
    Sends (.ok request) (request :: sent) := by
  cases sends with
  | repeated request again => exact .repeated request (again + 1)

theorem sends_attempts (request : Request) (more : Nat) (replies : Nat → Reply) :
    Sends (.ok request) ((attempts request more).run replies).2 := by
  induction more generalizing replies with
  | zero =>
      rw [attempts, attempt, Dialogue.run_ask]
      cases judge (replies 0) with
      | final outcome => exact .once request
      | rejected fault => exact .once request
  | succ more ih =>
      rw [attempts, attempt, Dialogue.run_ask]
      cases judge (replies 0) with
      | final outcome => exact .once request
      | rejected fault => exact (ih _).again

theorem sends_extract (extractor : ExtractorConfig) (text : String) (replies : Nat → Reply) :
    Sends (extractionRequest extractor text) ((extract extractor text).run replies).2 := by
  unfold extract
  cases extractionRequest extractor text with
  | error fault => exact .nothing fault
  | ok request => exact sends_attempts request _ replies

theorem sends_resolve (resolver : ResolverConfig) (name : String) (replies : Nat → Reply) :
    Sends (resolutionRequest resolver name) ((resolve resolver name).run replies).2 := by
  unfold resolve
  cases resolutionRequest resolver name with
  | error fault => exact .nothing fault
  | ok request => exact .once request

theorem destined_of_sends {origin : Url.Origin} (wellFormed : origin.WellFormed) {path : String}
    (isBehind : Url.IsBehind path) {headers : Except ProviderError Http.Headers} {body : Json}
    {sent : List Request}
    (sends : Sends (do let fields ← headers; let url ← address origin.text path; return post url fields body)
      sent) : Destined origin headers sent := by
  cases headers with
  | error fault =>
      cases sends
      exact ⟨List.forall_mem_nil _, iff_of_true rfl (.inl rfl)⟩
  | ok fields =>
      obtain ⟨url, addressed, served, names⟩ | ⟨⟨fault, refused⟩, unserved⟩ :=
        address_of_origin wellFormed isBehind
      · rw [addressed] at sends
        change Sends (.ok (post url fields body)) sent at sends
        cases sends with
        | repeated request again =>
            constructor
            case atSite =>
              intro request member
              rw [List.eq_of_mem_replicate member]
              exact names
            case keptBack =>
              refine iff_of_false (List.cons_ne_nil _ _) ?_
              rintro (faulty | unserved)
              · cases faulty
              · exact unserved served
      · rw [refused] at sends
        obtain rfl : sent = [] := sends.eq_nil
        exact ⟨List.forall_mem_nil _, iff_of_true rfl (.inr unserved)⟩

/-! ## Configurations that are loaded -/

section

variable {bytes : List UInt8} {config : Config} {origin : Url.Origin}

theorem isBehind_resolverPath (loaded : Config.ofBytes bytes = .ok config) :
    Url.IsBehind config.resolver.path := by
  obtain ⟨_, _, _, _, _, valid⟩ := Config.exists_given loaded
  have acceptable : config.Acceptable :=
    Config.acceptable_iff_holds.mpr (Config.validate_eq_ok_iff.mp valid)
  obtain ⟨rest, rooted⟩ := acceptable.resolverPath
  intro c first
  rw [rooted] at first
  obtain rfl := Option.some.inj first
  rfl

theorem ofBytes_destined (loaded : Config.ofBytes bytes = .ok config) (wellFormed : origin.WellFormed) :
    (config.resolver.apiBase = origin.text → ∀ name replies,
      Destined origin (defaultHeaders config.resolver.defaultHeaders)
        ((resolve config.resolver name).run replies).2) ∧
    (config.extractor.apiBase = origin.text → Url.IsBehind config.extractor.path → ∀ text replies,
      Destined origin (authorizedHeaders config.extractor.apiKey config.extractor.defaultHeaders)
        ((extract config.extractor text).run replies).2) := by
  constructor
  · intro base name replies
    have sends := sends_resolve config.resolver name replies
    rw [resolutionRequest, base] at sends
    exact destined_of_sends wellFormed (isBehind_resolverPath loaded) sends
  · intro base isBehind text replies
    have sends := sends_extract config.extractor text replies
    rw [extractionRequest, base] at sends
    exact destined_of_sends wellFormed isBehind sends

end

/-! ## Paths in a file -/

namespace Paths

def file (path : String) : String :=
  "[service]\nhttp_bind=\"a:1\"\n[storage.postgres]\ndsn=\"d\"\npool_max_conns=1\n" ++
  "[providers.extractor]\nprovider_id=\"p\"\napi_base=\"http://127.0.0.1:80\"\napi_key=\"k\"\n" ++
  "path=\"" ++ path ++ "\"\nmodel=\"m\"\ntimeout_ms=1\n" ++
  "[providers.resolver]\napi_base=\"http://127.0.0.1:80\"\ntimeout_ms=1\n"

def loopback : Url.Origin :=
  ⟨"http".toList, "127.0.0.1".toList, some "80".toList⟩

theorem loopback_wellFormed : loopback.WellFormed where
  letter := ⟨'h', rfl, by decide⟩
  scheme := List.all_eq_true.mp (by decide)
  host := .name (by decide) (Url.forall_isPlain (by decide))
  port := by
    intro digits same
    obtain rfl := Option.some.inj same
    exact Url.forall_isPlain (by decide)

theorem loopback_served : IsServed loopback :=
  ⟨⟨"http", "127.0.0.1", none⟩, by decide +kernel, .inl rfl⟩

def shown (outcome : Except ConfigError Config) : Option (String × String × String × Bool × Bool) :=
  outcome.toOption.map fun config =>
    (config.extractor.apiBase, config.extractor.path, config.resolver.apiBase,
      (authorizedHeaders config.extractor.apiKey config.extractor.defaultHeaders).isOk,
      (defaultHeaders config.resolver.defaultHeaders).isOk)

structure Loads (path : String) (config : Config) : Prop where
  loaded : Config.ofBytes (Text.Utf8.encode (file path)) = .ok config
  extractorBase : config.extractor.apiBase = loopback.text
  extractorPath : config.extractor.path = path
  resolverBase : config.resolver.apiBase = loopback.text
  authorized : (authorizedHeaders config.extractor.apiKey config.extractor.defaultHeaders).isOk = true
  headed : (defaultHeaders config.resolver.defaultHeaders).isOk = true

theorem exists_loads {path : String}
    (read : shown (Config.ofText (file path)) = some (loopback.text, path, loopback.text, true, true)) :
    ∃ config, Loads path config := by
  obtain ⟨config, loaded, seen⟩ := Config.exists_of_view read
  simp only [Prod.mk.injEq] at seen
  obtain ⟨extractorBase, extractorPath, resolverBase, authorized, headed⟩ := seen
  exact ⟨config, (Config.ofBytes_encode _).trans loaded, extractorBase, extractorPath, resolverBase, authorized,
    headed⟩

theorem rooted_loads : ∃ config, Loads "/v1" config :=
  exists_loads (by decide +kernel)

theorem unrooted_loads : ∃ config, Loads "v1" config :=
  exists_loads (by decide +kernel)

theorem unrooted_refused : (address loopback.text "v1").isOk = false := by
  decide +kernel

end Paths

open Paths in
theorem ofBytes_destined_rooted : ∃ config, Config.ofBytes (Text.Utf8.encode (file "/v1")) = .ok config ∧
    (∀ name replies, Destined loopback (defaultHeaders config.resolver.defaultHeaders)
      ((resolve config.resolver name).run replies).2) ∧
    ∀ text replies, ∃ request ∈ ((extract config.extractor text).run replies).2, loopback.Names request.url := by
  obtain ⟨config, loads⟩ := rooted_loads
  obtain ⟨resolver, extractor⟩ := ofBytes_destined loads.loaded loopback_wellFormed
  have isBehind : Url.IsBehind config.extractor.path := by
    rw [loads.extractorPath]
    exact fun c first => Option.some.inj first ▸ rfl
  refine ⟨config, loads.loaded, resolver loads.resolverBase, fun text replies => ?_⟩
  have destined := extractor loads.extractorBase isBehind text replies
  have sent : ((extract config.extractor text).run replies).2 ≠ [] := by
    rw [Ne, destined.keptBack, loads.authorized]
    simp [loopback_served]
  obtain ⟨request, member⟩ := List.exists_mem_of_ne_nil _ sent
  exact ⟨request, member, destined.atSite request member⟩

open Paths in
theorem ofBytes_merges_path : ¬ ∀ (bytes : List UInt8) (config : Config) (origin : Url.Origin),
    Config.ofBytes bytes = .ok config → origin.WellFormed → config.extractor.apiBase = origin.text →
      ∀ text replies, Destined origin
        (authorizedHeaders config.extractor.apiKey config.extractor.defaultHeaders)
        ((extract config.extractor text).run replies).2 := by
  intro always
  obtain ⟨config, loads⟩ := unrooted_loads
  have destined := always _ config loopback loads.loaded loopback_wellFormed loads.extractorBase "milk"
    fun _ => .failure .timedOut
  have sends := sends_extract config.extractor "milk" fun _ => .failure .timedOut
  rw [extractionRequest, loads.extractorBase, loads.extractorPath, address_of_not_isOk unrooted_refused] at sends
  have none_sent : ((extract config.extractor "milk").run fun _ => .failure .timedOut).2 = [] := by
    cases headers : authorizedHeaders config.extractor.apiKey config.extractor.defaultHeaders with
    | error fault =>
        rw [headers] at sends
        exact sends.eq_nil
    | ok fields =>
        rw [headers] at sends
        exact sends.eq_nil
  obtain faulty | unserved := destined.keptBack.mp none_sent
  · rw [loads.authorized] at faulty
    cases faulty
  · exact unserved loopback_served

end Larder.Provider
