import LinkGuard.Endpoint.Service
import LinkGuard.Proofs.Asset.Path
import LinkGuard.Proofs.Http.Response
import LinkGuard.Proofs.Text.Pairs
import Mathlib.Data.List.TakeWhile

/-!
# Files stay inside the assets

A request for a file names it in percent-encoding behind the path of the files. Any spelling of a
path opens the same file: the one that is listed under the rooted form of the path. A path that
leads upwards or is not listed is not found, however it is spelled.
-/

namespace LinkGuard

open Http (Request Response Target)

namespace Percent

theorem decodeOnto_flatMap_encodeByte (bytes decoded : List UInt8) :
    decodeOnto decoded (bytes.flatMap encodeByte) = decoded.reverse ++ bytes := by
  induction bytes generalizing decoded with
  | nil => simp [decodeOnto]
  | cons first rest ih =>
      rw [List.flatMap_cons, decodeOnto_encodeByte, ih]
      simp

end Percent

namespace Endpoint

/-- The name stands for the path: it ends neither the path of a target nor its query, and the path
is what is left when the percent-encoding is undone. -/
structure Spells (encoded path : String) : Prop where
  whole : ∀ character ∈ encoded.toList, character ≠ '?' ∧ character ≠ '#'
  decoded : Percent.decode (Utf8.encode encoded) = Utf8.encode path

/-- The name in which every byte of a path is written as two hex digits. -/
def spelling (path : String) : String :=
  String.ofList (((Utf8.encode path).flatMap Percent.encodeByte).map fun byte =>
    Char.ofNat byte.toNat)

theorem spells_spelling (path : String) : Spells (spelling path) path := by
  have written : ∀ byte ∈ (Utf8.encode path).flatMap Percent.encodeByte,
      Form.isWritten byte = true := by
    intro byte mem
    rcases List.mem_flatMap.mp mem with ⟨_, _, mem⟩
    exact Form.isWritten_of_mem_escape mem
  constructor
  · intro character mem
    rw [spelling, String.toList_ofList] at mem
    rcases List.mem_map.mp mem with ⟨byte, byte_mem, rfl⟩
    have legal := Form.isQueryCharacter_of_isWritten (written byte byte_mem)
    constructor
    · intro mark
      rw [mark] at legal
      exact absurd legal (by decide)
    · intro mark
      rw [mark] at legal
      exact absurd legal (by decide)
  · have bytes_eq : Utf8.encode (spelling path) =
        (Utf8.encode path).flatMap Percent.encodeByte := by
      rw [spelling, Utf8.encode, String.toList_ofList]
      exact Utf8.encodeChars_map_ofNat fun byte mem => Form.lt_of_isWritten (written byte mem)
    rw [bytes_eq, Percent.decode, Percent.decodeOnto_flatMap_encodeByte]
    rfl

variable {encoded path : String}

theorem target_of_spells (spells : Spells encoded path) :
    Target.read (filesPath ++ encoded) = ⟨filesPath ++ encoded, none⟩ := by
  have whole : ∀ character ∈ (filesPath ++ encoded).toList, character ≠ '?' ∧ character ≠ '#' := by
    rw [String.toList_append, List.forall_mem_append]
    exact ⟨by simp [filesPath], spells.whole⟩
  have characters_eq : (filesPath ++ encoded).toList.takeWhile (· ≠ '#') =
      (filesPath ++ encoded).toList := by
    apply List.takeWhile_eq_self_iff.mpr
    intro character mem
    simpa using (whole character mem).2
  have unmarked : ∀ character ∈ (filesPath ++ encoded).toList,
      decide (character ≠ '?') = true := by
    intro character mem
    simpa using (whole character mem).1
  have relative : Http.behindAuthority (filesPath ++ encoded).toList =
      (filesPath ++ encoded).toList := by
    rw [String.toList_append]
    rfl
  simp only [Target.read, characters_eq, relative, List.takeWhile_eq_self_iff.mpr unmarked,
    List.dropWhile_eq_nil_iff.mpr unmarked, String.ofList_toList]

theorem ofPath_files (encoded : String) :
    ofPath (filesPath ++ encoded) = if encoded = "" then .unknown else .file encoded := by
  have other (path : String) (differs : path.toList[1]? ≠ some 'p') :
      filesPath ++ encoded ≠ path := by
    rintro rfl
    apply differs
    rw [String.toList_append]
    rfl
  have isPrefix : filesPath.toList.isPrefixOf (filesPath ++ encoded).toList = true := by
    rw [String.toList_append]
    exact List.isPrefixOf_iff_prefix.mpr (List.prefix_append _ _)
  have name_eq : (filesPath ++ encoded).toList.drop filesPath.length = encoded.toList := by
    rw [String.toList_append]
    rfl
  unfold ofPath
  split
  case h_1 same => exact absurd same (other _ (by decide))
  case h_2 same => exact absurd same (other _ (by decide))
  case h_3 same => exact absurd same (other _ (by decide))
  case h_4 =>
    simp only [name_eq, isPrefix, true_and, String.ofList_toList]
    by_cases empty : encoded = ""
    · subst empty
      rfl
    · have filled : encoded.toList ≠ [] := by simpa using empty
      rw [if_pos filled, if_neg empty]

variable {store : AssetStore} {request : Request} {bytes : List UInt8}

/-- The response delivers the file at a path: it succeeds with just the bytes that the store has for
it, and the file is not found just if there are none. -/
structure Delivers (store : AssetStore) (path : String) (response : Response) : Prop where
  found : ∀ bytes, response.status = 200 ∧ response.body = bytes ↔ store path = .ok bytes
  missing : response.status = 404 ↔ ∀ bytes, store path ≠ .ok bytes

theorem delivers_of_opened (opened : store path = .ok bytes) (mediaType : String) :
    Delivers store path ((Response.withBody 200 mediaType bytes).finish "GET") := by
  have body_eq : ((Response.withBody 200 mediaType bytes).finish "GET").body = bytes :=
    Response.body_finish_of_ne (by decide) (by decide)
  constructor
  · intro other
    rw [Response.status_finish, body_eq, opened, Except.ok.injEq]
    exact and_iff_right rfl
  · rw [Response.status_finish, opened]
    constructor
    · intro notFound
      cases notFound
    · intro missing
      exact absurd rfl (missing bytes)

theorem delivers_of_missing {error : AssetError} (missing : store path = .error error)
    (message : String) :
    Delivers store path ((Refusal.notFound message).response.finish "GET") := by
  constructor
  · intro other
    rw [Response.status_finish, missing]
    constructor
    · rintro ⟨found, _⟩
      cases found
    · intro found
      cases found
  · rw [Response.status_finish, missing]
    exact ⟨fun _ _ found => (by cases found), fun _ => rfl⟩

theorem delivers_serveFile (decoded : Percent.decode (Utf8.encode encoded) = Utf8.encode path) :
    Delivers store path ((serveFile store "GET" encoded).finish "GET") := by
  rw [serveFile, if_neg (by decide), decoded, Utf8.decode?_encode]
  cases opened : store path with
  | ok bytes =>
      simp only [opened]
      exact delivers_of_opened opened _
  | error error =>
      simp only [opened]
      exact delivers_of_missing opened _

theorem serve_of_file (led : ofPath (Target.read request.target).path = .file encoded) :
    serve store request =
      .done ((serveFile store request.method encoded).finish request.method) := by
  simp only [serve, led]
  rfl

theorem serve_of_unknown (led : ofPath (Target.read request.target).path = .unknown) :
    serve store request = .done (Refusal.nothingHere.response.finish request.method) := by
  simp only [serve, led]
  rfl

/-- A request for a file asks nothing of the engine and delivers what the store has for its path,
if it has nothing for the empty path. -/
theorem exists_delivers {error : AssetError} (unnamed : store "" = .error error)
    (spells : Spells encoded path) (method : request.method = "GET")
    (target : request.target = filesPath ++ encoded) :
    ∃ response, serve store request = .done response ∧ Delivers store path response := by
  have led : ofPath (Target.read request.target).path =
      if encoded = "" then .unknown else .file encoded := by
    rw [target, target_of_spells spells, ofPath_files]
  by_cases empty : encoded = ""
  · have path_eq : path = "" := by
      have nothing : Percent.decode (Utf8.encode "") = Utf8.encode "" := by decide +kernel
      have decoded := spells.decoded
      rw [empty, nothing] at decoded
      exact Utf8.encode_injective decoded.symm
    rw [if_pos empty] at led
    rw [serve_of_unknown led, method, path_eq]
    exact ⟨_, rfl, delivers_of_missing unnamed _⟩
  · rw [if_neg empty] at led
    rw [serve_of_file led, method]
    exact ⟨_, rfl, delivers_serveFile spells.decoded⟩

open Asset (normalize embedded embeddedStore)

/-- A path is refused just if it leads upwards or holds a backslash. Every other path has a rooted
form, which begins behind the slashes in front of it. The embedded store opens a path just if its
rooted form is listed, and a request for a file delivers what it opens for the path, in every
spelling of it, of which there is one. -/
theorem files_stay_inside (path : String) :
    (normalize path = .error (.invalidPath path) ↔ Asset.Strays path) ∧
    (¬Asset.Strays path → ∃ rooted, normalize path = .ok rooted ∧
      rooted = String.ofList ('/' :: Asset.unrooted path) ∧ Asset.IsRooted rooted ∧
      ∀ count, normalize (String.ofList (List.replicate count '/') ++ path) = .ok rooted) ∧
    (∀ bytes, embeddedStore path = .ok bytes ↔ ∃ rooted text, normalize path = .ok rooted ∧
      (rooted, text) ∈ embedded ∧ bytes = Utf8.encode text) ∧
    (∃ encoded, Spells encoded path) ∧
    ∀ encoded, Spells encoded path → ∀ request : Request, request.method = "GET" →
      request.target = "/public/" ++ encoded →
        ∃ response, serve embeddedStore request = .done response ∧
          Delivers embeddedStore path response := by
  refine ⟨Asset.normalize_eq_error_iff, fun inside => ?_, fun bytes => ?_,
    ⟨spelling path, spells_spelling path⟩, fun encoded spells request method target => ?_⟩
  · have normalized := Asset.normalize_of_not_strays inside
    exact ⟨_, normalized, rfl, Asset.isRooted_of_normalize normalized,
      Asset.normalize_append_slashes normalized⟩
  · exact Asset.listed_eq_ok_iff Asset.embedded_nodup
  · have unnamed : embeddedStore "" = .error (.notFound "/") := rfl
    exact exists_delivers unnamed spells method target

/-- The style sheet is delivered under a name with a slash in front and a point in hex digits. A
name that leads upwards once its points are decoded is not found. -/
theorem files_stay_inside_styleSheet :
    ¬Asset.Strays "/interstitial.css" ∧ normalize "/interstitial.css" = .ok "/interstitial.css" ∧
    Spells "/interstitial%2Ecss" "/interstitial.css" ∧ Spells "%2e%2e/main.rs" "../main.rs" ∧
    (∃ response,
      serve embeddedStore ⟨"GET", "/public//interstitial%2Ecss", [], []⟩ = .done response ∧
        response.status = 200 ∧ response.body = Utf8.encode Asset.styleSheet) ∧
    ∃ response, serve embeddedStore ⟨"GET", "/public/%2e%2e/main.rs", [], []⟩ = .done response ∧
      response.status = 404 := by
  have spells : Spells "/interstitial%2Ecss" "/interstitial.css" :=
    ⟨by simp, by decide +kernel⟩
  have upwards : Spells "%2e%2e/main.rs" "../main.rs" := ⟨by simp, by decide +kernel⟩
  rcases files_stay_inside "/interstitial.css" with ⟨refused, rooted, opened, _, served⟩
  have inside : ¬Asset.Strays "/interstitial.css" := by
    rw [← refused]
    decide
  rcases rooted inside with ⟨name, normalized, name_eq, _, _⟩
  have normalized : normalize "/interstitial.css" = .ok "/interstitial.css" := by
    rw [normalized, name_eq]
    decide
  rcases served _ spells ⟨"GET", "/public//interstitial%2Ecss", [], []⟩ rfl (by decide) with
    ⟨response, done, delivers⟩
  rcases files_stay_inside "../main.rs" with ⟨_, _, opened', _, served'⟩
  rcases served' _ upwards ⟨"GET", "/public/%2e%2e/main.rs", [], []⟩ rfl (by decide) with
    ⟨response', done', delivers'⟩
  refine ⟨inside, normalized, spells, upwards, ⟨response, done, ?_⟩, response', done', ?_⟩
  · apply (delivers.found _).mpr
    have entry : ("/interstitial.css", Asset.styleSheet) ∈ embedded :=
      List.mem_cons_of_mem _ List.mem_cons_self
    exact (opened _).mpr ⟨_, _, normalized, entry, rfl⟩
  · apply delivers'.missing.mpr
    intro bytes found
    rcases (opened' bytes).mp found with ⟨rooted, text, normalized, _⟩
    cases normalized

end Endpoint

end LinkGuard
