import VpnHub.Library.IpText
import VpnHub.Library.Substring
import VpnHub.Library.Trim
import VpnHub.Library.Utf8
import VpnHub.Model.Loopback
import VpnHub.Verification.Push.Messages

/-! # Challenges of the server and the answers to them -/

namespace VpnHub

namespace Protocol

/-! ## The messages that are challenges -/

/-- A message, without the white space around it, and the challenge that it is. -/
inductive IsChallenge : Text → AuthChallenge → Prop where
  | crV1 (flags stateId username prompt : Text) (hflags : ':' ∉ flags) (hstateId : ':' ∉ stateId)
      (husername : ':' ∉ username) :
    IsChallenge
      ("CRV1:".toList ++ (flags ++ ':' :: (stateId ++ ':' :: (username ++ ':' :: prompt))))
      (.crV1 flags stateId username prompt)
  | openUrl (url : Text) : IsChallenge ("OPEN_URL:".toList ++ url) (.webSso (Text.trim url))
  | webAuth (url : Text) :
    IsChallenge ("INFO_PRE:WEB_AUTH:".toList ++ url) (.webSso (Text.trim url))

namespace AuthHandler

/-- The fields of a `CRV1:` message. -/
def crV1Fields (rest : Text) : Option AuthChallenge :=
  match Text.splitN rest 4 ':' with
  | [flags, stateId, username, prompt] => some (.crV1 flags stateId username prompt)
  | _ => none

theorem crV1Fields_eq_some_iff {rest : Text} {challenge : AuthChallenge} :
    crV1Fields rest = some challenge ↔ ∃ flags stateId username prompt,
      Text.splitN rest 4 ':' = [flags, stateId, username, prompt] ∧
        .crV1 flags stateId username prompt = challenge := by
  rw [crV1Fields]
  split
  · rename_i flags stateId username prompt hsplit
    simp [hsplit]
  · rename_i hother
    simp only [reduceCtorEq, false_iff]
    rintro ⟨flags, stateId, username, prompt, hsplit, -⟩
    exact hother flags stateId username prompt hsplit

theorem crV1_of_fields {rest : Text} {challenge : AuthChallenge}
    (h : crV1Fields rest = some challenge) : IsChallenge ("CRV1:".toList ++ rest) challenge := by
  obtain ⟨flags, stateId, username, prompt, hsplit, rfl⟩ := crV1Fields_eq_some_iff.mp h
  obtain ⟨rest, rfl, hflags, hsplit⟩ := Text.splitN_eq_cons.mp hsplit
  obtain ⟨rest, rfl, hstateId, hsplit⟩ := Text.splitN_eq_cons.mp hsplit
  obtain ⟨rest, rfl, husername, hsplit⟩ := Text.splitN_eq_cons.mp hsplit
  obtain rfl : rest = prompt := by simpa [Text.splitN_one] using hsplit
  exact .crV1 flags stateId username _ hflags hstateId husername

theorem parseChallenge_eq (message : Text) : parseChallenge message =
    (((Text.stripPrefix (Text.trim message) "CRV1:".toList).bind crV1Fields).or
      ((Text.stripPrefix (Text.trim message) "OPEN_URL:".toList).map fun url =>
        .webSso (Text.trim url))).or
      ((Text.stripPrefix (Text.trim message) "INFO_PRE:WEB_AUTH:".toList).map fun url =>
        .webSso (Text.trim url)) := rfl

/-- The parser recognises the challenges and nothing else, and every field is what the server put
there: only the prompt may have colons in it. -/
theorem parseChallenge_eq_some_iff {message : Text} {challenge : AuthChallenge} :
    parseChallenge message = some challenge ↔ IsChallenge (Text.trim message) challenge := by
  rw [parseChallenge_eq]
  generalize Text.trim message = trimmed
  constructor
  · simp only [Option.or_eq_some_iff, Option.bind_eq_some_iff, Option.map_eq_some_iff,
      Text.stripPrefix_eq_some_iff]
    rintro ((⟨rest, rfl, hfields⟩ | ⟨-, url, rfl, rfl⟩) | ⟨-, url, rfl, rfl⟩)
    · exact crV1_of_fields hfields
    · exact .openUrl url
    · exact .webAuth url
  · intro h
    cases h with
    | crV1 flags stateId username prompt hflags hstateId husername =>
        have hsplit : Text.splitN (flags ++ ':' :: (stateId ++ ':' :: (username ++ ':' :: prompt)))
            4 ':' = [flags, stateId, username, prompt] := by
          rw [Text.splitN_append hflags, Text.splitN_append hstateId, Text.splitN_append husername,
            Text.splitN_one]
        have hfields := crV1Fields_eq_some_iff.mpr ⟨flags, stateId, username, prompt, hsplit, rfl⟩
        rw [Text.stripPrefix_append, Option.bind_some, hfields]
        simp
    | openUrl url =>
        have hcrV1 : Text.stripPrefix ("OPEN_URL:".toList ++ url) "CRV1:".toList = none := by
          simp [Text.stripPrefix]
        rw [hcrV1, Text.stripPrefix_append]
        rfl
    | webAuth url =>
        have hcrV1 :
            Text.stripPrefix ("INFO_PRE:WEB_AUTH:".toList ++ url) "CRV1:".toList = none := by
          simp [Text.stripPrefix]
        have hopenUrl :
            Text.stripPrefix ("INFO_PRE:WEB_AUTH:".toList ++ url) "OPEN_URL:".toList = none := by
          simp [Text.stripPrefix]
        rw [hcrV1, hopenUrl, Text.stripPrefix_append]
        rfl

/-! ## Answers -/

/-- The state id of a challenge has no colon in it. -/
theorem notMem_stateId {message flags stateId username prompt : Text}
    (h : parseChallenge message = some (.crV1 flags stateId username prompt)) : ':' ∉ stateId := by
  rw [parseChallenge_eq_some_iff] at h
  generalize Text.trim message = trimmed at h
  cases h
  assumption

/-- The answers to challenges are told apart by their bytes: another answer, to the same challenge
or to another one, is sent as other bytes. -/
theorem answers_apart {message flags stateId username prompt : Text}
    {message' flags' stateId' username' prompt' : Text} {token token' : Text}
    (h : parseChallenge message = some (.crV1 flags stateId username prompt))
    (h' : parseChallenge message' = some (.crV1 flags' stateId' username' prompt'))
    (hbytes : encodeCrv1Response stateId token = encodeCrv1Response stateId' token') :
    stateId = stateId' ∧ token = token' := by
  have htexts := Text.utf8Encode_inj hbytes
  simp only [List.append_assoc, List.append_cancel_left_eq] at htexts
  have hfirst : Text.splitOnce (stateId ++ ':' :: (':' :: (token ++ ['\n']))) ':' =
      some (stateId, ':' :: (token ++ ['\n'])) := Text.splitOnce_append (notMem_stateId h) _
  have hsecond : Text.splitOnce (stateId' ++ ':' :: (':' :: (token' ++ ['\n']))) ':' =
      some (stateId', ':' :: (token' ++ ['\n'])) := Text.splitOnce_append (notMem_stateId h') _
  have hsame : stateId ++ ':' :: (':' :: (token ++ ['\n'])) =
      stateId' ++ ':' :: (':' :: (token' ++ ['\n'])) := htexts
  rw [hsame, hsecond] at hfirst
  simpa [eq_comm] using hfirst

namespace Sample

/-- Two challenges that differ in the state id only. -/
def otpMessage : Text := "CRV1:R,E:Om01u:Y2g=:Enter the code: ".toList

def otherMessage : Text := "CRV1:R,E:Om02x:Y2g=:Enter the code: ".toList

end Sample

theorem answers_apart_otp :
    parseChallenge Sample.otpMessage = some (.crV1 "R,E".toList "Om01u".toList "Y2g=".toList
      "Enter the code:".toList) ∧
    parseChallenge Sample.otherMessage = some (.crV1 "R,E".toList "Om02x".toList "Y2g=".toList
      "Enter the code:".toList) ∧
    encodeCrv1Response "Om01u".toList "492039".toList ≠
      encodeCrv1Response "Om02x".toList "492039".toList := by
  have hfirst : parseChallenge Sample.otpMessage = some (.crV1 "R,E".toList "Om01u".toList
    "Y2g=".toList "Enter the code:".toList) := by decide
  have hsecond : parseChallenge Sample.otherMessage = some (.crV1 "R,E".toList "Om02x".toList
    "Y2g=".toList "Enter the code:".toList) := by decide
  refine ⟨hfirst, hsecond, fun hbytes => ?_⟩
  have hstateId := (answers_apart hfirst hsecond hbytes).1
  revert hstateId
  decide

end AuthHandler

namespace ProtocolEngine

variable {Conn : Type} {e : ProtocolEngine Conn}

/-- A message that starts with `AUTH_FAILED` is no challenge. -/
theorem parseChallenge_failed (rest : Text) :
    AuthHandler.parseChallenge ("AUTH_FAILED".toList ++ rest) = none := by
  have htrim : Text.trim ("AUTH_FAILED".toList ++ rest) =
      'A' :: Text.trimEndMatches Text.isWhitespace ("UTH_FAILED".toList ++ rest) := by
    have hstart : Text.trimStart ("AUTH_FAILED".toList ++ rest) = "AUTH_FAILED".toList ++ rest :=
      Text.trimStartMatches_cons_of_neg rfl
    have hend := Text.trimEndMatches_append_cons (p := Text.isWhitespace) (c := 'A') rfl []
      ("UTH_FAILED".toList ++ rest)
    rw [List.nil_append, List.nil_append] at hend
    rw [← hend]
    exact congrArg (Text.trimEndMatches Text.isWhitespace) hstart
  rw [Option.eq_none_iff_forall_ne_some]
  intro challenge hparse
  rw [AuthHandler.parseChallenge_eq_some_iff, htrim] at hparse
  generalize hmessage : 'A' :: Text.trimEndMatches Text.isWhitespace _ = message at hparse
  cases hparse <;> simp at hmessage

/-- A challenge inside of an `AUTH_FAILED` message is not presented: whatever comes after these
letters, the session is closed. -/
theorem authFailed_closes (rest : Text) (h : ¬ IsPushReply ("AUTH_FAILED".toList ++ rest)) :
    (handleAppMessage ("AUTH_FAILED".toList ++ rest)).run e =
      some (.error (.authenticationFailed ("AUTH_FAILED".toList ++ rest)),
        (e.become .error).queue (.closeSession ("AUTH_FAILED".toList ++ rest))) :=
  run_handleAppMessage_failed h (parseChallenge_failed rest) (by simp [Text.contains])

/-- What an access server sends to ask for a one-time password. -/
theorem authFailed_closes_dynamic :
    let message := "AUTH_FAILED,CRV1:R,E:Om01u:Y2g=:Enter the code: ".toList
    (handleAppMessage message).run (Loopback.newEngine {}) =
      some (.error (.authenticationFailed message),
        ((Loopback.newEngine {}).become .error).queue (.closeSession message)) :=
  authFailed_closes ",CRV1:R,E:Om01u:Y2g=:Enter the code: ".toList (by decide)

end ProtocolEngine

end Protocol

end VpnHub
