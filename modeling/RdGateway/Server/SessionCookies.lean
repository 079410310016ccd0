import RdGateway.Server.PortalProperties
import RdGateway.Wirekit.Base64

/-!
# Session cookies

A session token gives back the user id that it was made for, for a day, and it survives
its way through a `Cookie` header. If nobody else can make a MAC, an accepted token was
made by `signSession`.
-/

set_option autoImplicit false

namespace RdGateway.Server

open Wirekit Proto RdGateway.Core

/-- What the handlers rely on of the URL-safe alphabet without padding. -/
structure UrlSafe (base64 : Base64) : Prop where
  roundTrip : ∀ bytes, base64.decode (base64.encode bytes) = some bytes
  alphabet : ∀ bytes, ∀ c ∈ (base64.encode bytes).toList, c ∈ Base64Url.alphabet

/-! ## The characters of a token -/

/-- A character that neither ends a cookie nor is trimmed off it. -/
def IsPlain (c : Char) : Prop := isWhitespace c = false ∧ c ≠ ';'

instance (c : Char) : Decidable (IsPlain c) := inferInstanceAs (Decidable (_ ∧ _))

theorem isPlain_of_isDigit {c : Char} (digit : c.isDigit = true) : IsPlain c := by
  have range : 48 ≤ c.toNat ∧ c.toNat ≤ 57 := by
    simp only [Char.isDigit, Bool.and_eq_true, decide_eq_true_eq, ge_iff_le,
      UInt32.le_iff_toNat_le] at digit
    exact digit
  constructor
  · unfold isWhitespace
    rw [decide_eq_false_iff_not]
    omega
  · rintro rfl
    cases digit

theorem alphabet_plain : ∀ c ∈ Base64Url.alphabet, IsPlain c ∧ c ≠ '.' := by
  have all : (Base64Url.alphabet.all fun c => decide (IsPlain c ∧ c ≠ '.')) = true := by decide +kernel
  exact fun c member => of_decide_eq_true (List.all_eq_true.mp all c member)

theorem showInt_plain (value : Int) : ∀ c ∈ showInt value, IsPlain c := by
  intro c member
  by_cases minus : c = '-'
  · rw [minus]
    decide
  · cases digit : c.isDigit with
    | true => exact isPlain_of_isDigit digit
    | false => exact absurd member (showInt_clean digit minus value)

section Token

variable {prims : PortalPrimitives} (urlSafe : UrlSafe prims.base64Url)
include urlSafe

theorem signSession_plain (userId : Int) (issuedAt : Nat) (secret : Bytes) :
    ∀ c ∈ (signSession prims userId issuedAt secret).toList, IsPlain c := by
  intro c member
  rw [signSession, String.toList_ofList, sessionPayload] at member
  rcases List.mem_append.mp member with inPayload | later
  · rcases List.mem_append.mp inPayload with inUser | inIssued
    · exact showInt_plain userId c inUser
    · rcases List.mem_cons.mp inIssued with rfl | inIssued
      · decide
      · exact showInt_plain issuedAt c inIssued
  · rcases List.mem_cons.mp later with rfl | inSig
    · decide
    · exact (alphabet_plain c (urlSafe.alphabet _ c inSig)).1

theorem signSession_signedToken (userId : Int64) (issuedAt : UInt64) (secret : Bytes) :
    SignedToken prims secret (signSession prims userId.toInt issuedAt.toNat secret) userId.toInt
      issuedAt.toNat :=
  signSession_signed urlSafe.roundTrip
    (fun bytes member => (alphabet_plain _ (urlSafe.alphabet bytes _ member)).2 rfl)
    userId.le_toInt userId.toInt_lt issuedAt.toNat_lt secret

end Token

theorem SignedToken.unique {prims : PortalPrimitives} {secret : Bytes} {token : String}
    {userId other : Int} {issuedAt otherIssued : Nat}
    (signed : SignedToken prims secret token userId issuedAt)
    (again : SignedToken prims secret token other otherIssued) :
    userId = other ∧ issuedAt = otherIssued := by
  obtain ⟨idField, issuedField, sigB64, spelled, noDot, idClean, issuedClean, idParsed, issuedParsed, _⟩ :=
    signed
  obtain ⟨idField', issuedField', sigB64', spelled', noDot', idClean', issuedClean', idParsed',
    issuedParsed', _⟩ := again
  have cut := splitLast_eq_some.mpr ⟨spelled, noDot⟩
  rw [splitLast_eq_some.mpr ⟨spelled', noDot'⟩] at cut
  obtain ⟨payload, rfl⟩ := Prod.mk.inj (Option.some.inj cut)
  have fields := splitOn_eq_pair.mpr ⟨rfl, idClean, issuedClean⟩
  rw [← payload, splitOn_eq_pair.mpr ⟨rfl, idClean', issuedClean'⟩] at fields
  cases fields
  rw [idParsed] at idParsed'
  rw [issuedParsed] at issuedParsed'
  exact ⟨Option.some.inj idParsed', Option.some.inj issuedParsed'⟩

theorem validateSessionToken_signed {prims : PortalPrimitives} {secret : Bytes} {token : String}
    {userId : Int} {issuedAt : Nat} (signed : SignedToken prims secret token userId issuedAt) (now : Nat) :
    validateSessionToken prims now token secret =
      if now - issuedAt ≤ sessionTtlSecs then some userId else none := by
  split
  · next fresh => exact validateSessionToken_eq_some.mpr ⟨issuedAt, signed, fresh⟩
  · next expired =>
    cases accepted : validateSessionToken prims now token secret with
    | none => rfl
    | some other =>
        obtain ⟨otherIssued, again, fresh⟩ := validateSessionToken_eq_some.mp accepted
        obtain ⟨_, same⟩ := signed.unique again
        rw [← same] at fresh
        exact absurd fresh expired

/-! ## The `Cookie` header -/

/-- The text in front of the first equals sign. -/
def cookieName (cookie : List Char) : Option (List Char) :=
  if '=' ∈ trim cookie then some ((trim cookie).takeWhile (· ≠ '=')) else none

def cookieHeader (cookies : List (List Char)) : String := String.ofList ([';'].intercalate cookies)

def sessionCookie (token : String) : List Char := sessionCookieName.toList ++ '=' :: token.toList

theorem dropWhile_plain {text : List Char} (plain : ∀ c ∈ text, isWhitespace c = false) :
    text.dropWhile isWhitespace = text := by
  cases text with
  | nil => rfl
  | cons c rest =>
      exact List.dropWhile_cons_of_neg (Bool.eq_false_iff.mp (plain c List.mem_cons_self))

theorem trim_padded {front text back : List Char} (blank : ∀ c ∈ front ++ back, isWhitespace c = true)
    (plain : ∀ c ∈ text, isWhitespace c = false) (nonempty : text ≠ []) :
    trim (front ++ text ++ back) = text := by
  obtain ⟨blankFront, blankBack⟩ := List.forall_mem_append.mp blank
  have started : (front ++ text ++ back).dropWhile isWhitespace = text ++ back := by
    rw [List.append_assoc, List.dropWhile_append_of_pos blankFront]
    obtain ⟨c, rest, rfl⟩ := List.exists_cons_of_ne_nil nonempty
    exact List.dropWhile_cons_of_neg (Bool.eq_false_iff.mp (plain c List.mem_cons_self))
  have reversed : ∀ c ∈ back.reverse, isWhitespace c = true :=
    fun c member => blankBack c (List.mem_reverse.mp member)
  rw [trim, started, List.rdropWhile, List.reverse_append, List.dropWhile_append_of_pos reversed,
    dropWhile_plain fun c member => plain c (List.mem_reverse.mp member), List.reverse_reverse]

theorem sessionCookie_plain {token : String} (plain : ∀ c ∈ token.toList, IsPlain c) :
    ∀ c ∈ sessionCookie token, IsPlain c := by
  intro c member
  have name : (sessionCookieName.toList.all fun c => decide (IsPlain c)) = true := by decide +kernel
  rcases List.mem_append.mp member with inName | later
  · exact of_decide_eq_true (List.all_eq_true.mp name c inName)
  · rcases List.mem_cons.mp later with rfl | inToken
    · decide
    · exact plain c inToken

theorem sessionCookie_eq (token : String) :
    sessionCookie token = (sessionCookieName.toList ++ ['=']) ++ token.toList := by
  rw [List.append_assoc]
  rfl

/-- A cookie with another name does not begin like the session cookie. -/
theorem take_ne_of_name {cookie : List Char}
    (other : cookieName cookie ≠ some sessionCookieName.toList) :
    (trim cookie).take (sessionCookieName.toList ++ ['=']).length ≠ sessionCookieName.toList ++ ['='] := by
  intro begins
  have spelled := List.take_append_drop (sessionCookieName.toList ++ ['=']).length (trim cookie)
  rw [begins] at spelled
  have noSign : (sessionCookieName.toList.all fun c => decide (c ≠ '=')) = true := by decide +kernel
  refine other ?_
  rw [cookieName, ← spelled, List.append_assoc, if_pos (by simp),
    List.takeWhile_append_of_pos (List.all_eq_true.mp noSign)]
  simp

/-- Among cookies with other names the session cookie is found. -/
theorem sessionToken_among {before after : List (List Char)} {front back : List Char} {token : String}
    (others : ∀ cookie ∈ before ++ after,
      ';' ∉ cookie ∧ cookieName cookie ≠ some sessionCookieName.toList)
    (blank : ∀ c ∈ front ++ back, isWhitespace c = true) (plain : ∀ c ∈ token.toList, IsPlain c) :
    sessionToken (some (cookieHeader
      (before ++ (front ++ sessionCookie token ++ back) :: after))) = some token := by
  obtain ⟨othersBefore, othersAfter⟩ := List.forall_mem_append.mp others
  have cookiePlain := sessionCookie_plain plain
  have whole : ∀ cookie ∈ before ++ (front ++ sessionCookie token ++ back) :: after, ';' ∉ cookie := by
    intro cookie member
    rcases List.mem_append.mp member with inFront | behind
    · exact (othersBefore cookie inFront).1
    · rcases List.mem_cons.mp behind with rfl | behind
      · intro semicolon
        rcases List.mem_append.mp semicolon with inner | padding
        · rcases List.mem_append.mp inner with padding | inCookie
          · exact absurd (blank ';' (List.mem_append_left _ padding)) (by decide)
          · exact (cookiePlain ';' inCookie).2 rfl
        · exact absurd (blank ';' (List.mem_append_right _ padding)) (by decide)
      · exact (othersAfter cookie behind).1
  have trimmed : trim (front ++ sessionCookie token ++ back) = sessionCookie token :=
    trim_padded blank (fun c member => (cookiePlain c member).1) (by simp [sessionCookie])
  have passed : (before.map trim).find? (fun cookie =>
      cookie.take (sessionCookieName.toList ++ ['=']).length = sessionCookieName.toList ++ ['=']) =
        none := by
    refine List.find?_eq_none.mpr fun cookie member => ?_
    obtain ⟨raw, inFront, rfl⟩ := List.mem_map.mp member
    rw [decide_eq_true_iff]
    exact take_ne_of_name (othersBefore raw inFront).2
  have begins : (sessionCookie token).take (sessionCookieName.toList ++ ['=']).length =
      sessionCookieName.toList ++ ['='] := by
    rw [sessionCookie_eq, List.take_left]
  have found : ((before ++ (front ++ sessionCookie token ++ back) :: after).map trim).find? (fun cookie =>
      cookie.take (sessionCookieName.toList ++ ['=']).length = sessionCookieName.toList ++ ['=']) =
        some (sessionCookie token) := by
    rw [List.map_append, List.map_cons, trimmed, List.find?_append, passed, Option.none_or]
    exact List.find?_cons_of_pos (decide_eq_true begins)
  rw [sessionToken, cookieHeader]
  simp only [Option.bind_eq_bind, Option.bind_some, String.toList_ofList]
  rw [List.splitOn_intercalate _ whole (by simp), found, Option.bind_some, stripChars, if_pos begins,
    sessionCookie_eq, List.drop_left, Option.bind_some, String.ofList_toList]

/-! ## The laws of session tokens -/

/-- The token's MAC is one of the payloads that were signed by these calls of `sign_session`. -/
def MacUnforged (prims : PortalPrimitives) (secret : Bytes) (issued : List (Int64 × UInt64))
    (token : String) : Prop :=
  ∀ payload sigB64, token.toList = payload ++ '.' :: sigB64 →
    prims.base64Url.decode (String.ofList sigB64) =
      some (prims.hmacSha256 secret (utf8Bytes payload)).toList →
    ∃ call ∈ issued, payload = sessionPayload call.1.toInt call.2.toNat

structure SessionTokenLaws (prims : PortalPrimitives) : Prop where
  accepted : ∀ (userId : Int64) (issuedAt now : UInt64) (secret : Bytes),
    validateSessionToken prims now.toNat (signSession prims userId.toInt issuedAt.toNat secret) secret =
      if now.toNat - issuedAt.toNat ≤ sessionTtlSecs then some userId.toInt else none
  inCookies : ∀ (config : PortalConfig) (userId : Int64) (issuedAt now : UInt64) (secret : Bytes)
    (before after : List (List Char)) (front back : List Char),
    (∀ cookie ∈ before ++ after, ';' ∉ cookie ∧ cookieName cookie ≠ some sessionCookieName.toList) →
    (∀ c ∈ front ++ back, isWhitespace c = true) →
    let token := signSession prims userId.toInt issuedAt.toNat secret
    validateSessionCookie prims config now.toNat
        (some (cookieHeader (before ++ (front ++ sessionCookie token ++ back) :: after))) =
      validateSessionToken prims now.toNat token (sessionSecret config.serverName)
  issued : ∀ (secret : Bytes) (issued : List (Int64 × UInt64)) (token : String) (now : UInt64)
    (userId : Int), MacUnforged prims secret issued token →
    validateSessionToken prims now.toNat token secret = some userId →
    ∃ call ∈ issued, call.1.toInt = userId ∧ now.toNat - call.2.toNat ≤ sessionTtlSecs

theorem session_token_laws {prims : PortalPrimitives} (urlSafe : UrlSafe prims.base64Url) :
    SessionTokenLaws prims where
  accepted userId issuedAt now secret :=
    validateSessionToken_signed (signSession_signedToken urlSafe userId issuedAt secret) now.toNat
  inCookies config userId issuedAt now secret before after front back others blank := by
    intro token
    rw [validateSessionCookie,
      sessionToken_among others blank (signSession_plain urlSafe userId.toInt issuedAt.toNat secret)]
    rfl
  issued secret issued token now userId unforged accepted := by
    obtain ⟨issuedAt, signed, fresh⟩ := validateSessionToken_eq_some.mp accepted
    obtain ⟨idField, issuedField, sigB64, spelled, noDot, idClean, issuedClean, idParsed, issuedParsed,
      decoded⟩ := signed
    obtain ⟨⟨caller, time⟩, member, payload⟩ := unforged _ _ spelled decoded
    have clean {value : Int} : ':' ∉ showInt value := showInt_clean rfl (by decide) value
    have fields := splitOn_eq_pair.mpr ⟨rfl, idClean, issuedClean⟩
    rw [payload] at fields
    have calls : (sessionPayload caller.toInt time.toNat).splitOn ':' =
        [showInt caller.toInt, showInt time.toNat] := splitOn_eq_pair.mpr ⟨rfl, clean, clean⟩
    rw [calls] at fields
    cases fields
    rw [parseI64_showInt caller.le_toInt caller.toInt_lt] at idParsed
    have issuedSame : parseU64 (showInt time.toNat) = some time.toNat := parseU64_toDigits time.toNat_lt
    rw [issuedSame] at issuedParsed
    cases issuedParsed
    exact ⟨_, member, Option.some.inj idParsed, fresh⟩

def urlSafeNoPad : Base64 where
  encode bytes := String.ofList (Base64Url.encode bytes)
  decode text := Base64Url.decode text.toList

theorem urlSafeNoPad_urlSafe : UrlSafe urlSafeNoPad where
  roundTrip bytes := by
    rw [urlSafeNoPad]
    dsimp only
    rw [String.toList_ofList, Base64Url.decode_encode]
  alphabet bytes c member := by
    rw [urlSafeNoPad, String.toList_ofList] at member
    exact Base64Url.mem_encode member

def urlSafeHashes : PortalPrimitives := { knownHashes with base64Url := urlSafeNoPad }

theorem session_token_laws_alice :
    validateSessionCookie urlSafeHashes gwPortal 1700000100
      (some "lang=de; rdg_session=1:1700000000.mwUgMGenogDwmC68JyckfRAjEg2fEEsfTRSK-M-X-y4") = some 1 := by
  have laws : SessionTokenLaws urlSafeHashes := session_token_laws urlSafeNoPad_urlSafe
  have embedded := laws.inCookies gwPortal 1 1700000000 1700000100 (sessionSecret "gw")
    ["lang=de".toList] [] [' '] [] (by decide +kernel) (List.forall_mem_singleton.mpr (by decide))
  have header : cookieHeader (["lang=de".toList] ++
      ([' '] ++ sessionCookie (signSession urlSafeHashes (1 : Int64).toInt (1700000000 : UInt64).toNat
        (sessionSecret "gw")) ++ []) :: []) =
      "lang=de; rdg_session=1:1700000000.mwUgMGenogDwmC68JyckfRAjEg2fEEsfTRSK-M-X-y4" := by
    decide +kernel
  rw [← header]
  exact embedded.trans (laws.accepted 1 1700000000 1700000100 (sessionSecret "gw"))

end RdGateway.Server
