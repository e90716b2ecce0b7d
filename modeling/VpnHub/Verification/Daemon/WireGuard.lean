import VpnHub.Library.IpText
import VpnHub.Library.Lines
import VpnHub.Program.Daemon.WireGuard

/-! # The lines of a tunnel's configuration -/

namespace VpnHub.Daemon.WireGuardDriver

variable {driver : WireGuardDriver} {params : ConnectParams} {key : Text}
  {presharedKey : Option Text} {added : List Text}

/-- The endpoint in the configuration. -/
def endpoint (params : ConnectParams) : Text :=
  params.serverEndpoint ++ ":".toList ++ Text.ofNat params.serverPort.toNat

/-- The preshared key, unless it is blank. -/
def usedPsk (presharedKey : Option Text) : Option Text :=
  (presharedKey.map Text.trim).filter (· ≠ [])

/-- The configuration with each value in its line, and with further lines after the private key. -/
def configLines (params : ConnectParams) (privateKey : Text) (presharedKey : Option Text)
    (address : Text) (added : List Text) : List Text :=
  ["[Interface]".toList, "PrivateKey = ".toList ++ privateKey] ++ added ++
    ["Address = ".toList ++ address, [], "[Peer]".toList, "Endpoint = ".toList ++ endpoint params,
      "AllowedIPs = 0.0.0.0/0, ::/0".toList] ++
    (usedPsk presharedKey).toList.map fun psk => "PresharedKey = ".toList ++ psk

/-- Further lines that are part of the text of the private key. -/
def smuggled (added : List Text) : Text := added.flatMap ('\n' :: ·)

theorem smuggled_append_feed (added : List Text) :
    smuggled added ++ ['\n'] = '\n' :: Text.unlines added := by
  induction added with
  | nil => rfl
  | cons line added ih =>
      rw [smuggled, List.flatMap_cons, ← smuggled, List.append_assoc, ih, Text.unlines_cons]
      simp

theorem generateConfig_eq (driver : WireGuardDriver) {privateKey : Text}
    (hauth : driver.params.authConfig = .wireguardKey privateKey presharedKey)
    (hkey : Text.trim privateKey = key ++ smuggled added) :
    driver.generateConfig = .ok (Text.unlines (configLines driver.params key presharedKey
      (driver.assignedIp.getD "10.14.0.2/24".toList) added)) := by
  have hfeed (rest : Text) : smuggled added ++ '\n' :: rest =
      '\n' :: (List.flatMap (fun line => line ++ ['\n']) added ++ rest) := by
    have happend := congrArg (· ++ rest) (smuggled_append_feed added)
    simpa [Text.unlines] using happend
  rw [generateConfig, hauth]
  cases presharedKey with
  | none => simp [configLines, Text.unlines, usedPsk, endpoint, hkey, hfeed]
  | some psk =>
      by_cases hpsk : Text.trim psk = []
      · simp [configLines, Text.unlines, usedPsk, endpoint, hkey, hfeed, hpsk]
      · simp [configLines, Text.unlines, usedPsk, endpoint, hkey, hfeed, hpsk, Option.filter]

theorem start_eq (driver : WireGuardDriver) {privateKey : Text} (host : WireGuardHost)
    (hauth : driver.params.authConfig = .wireguardKey privateKey presharedKey)
    (hne : key ≠ []) (hkey : Text.trim privateKey = key ++ smuggled added) :
    (driver.start host none).result = .ok () ∧
      (driver.start host none).host.config = some (Text.unlines (configLines driver.params key
        presharedKey "10.14.0.2".toList added)) := by
  have hvalid : driver.validateCredentials = .ok () := by
    rw [validateCredentials, hauth]
    simp [hkey, hne]
  have hconfig := generateConfig_eq { driver with assignedIp := some "10.14.0.2".toList } hauth hkey
  simp only [start, hvalid, hconfig, Option.getD_some, and_self]

/-! ## Lines -/

/-- What the request puts into the configuration. -/
def inserted (params : ConnectParams) (privateKey : Text) (presharedKey : Option Text) :
    List Text :=
  privateKey :: endpoint params :: (usedPsk presharedKey).toList

/-- A text that stands in a line as it is. -/
def Line (line : Text) : Prop := '\n' ∉ line ∧ line.getLast? ≠ some '\r'

theorem line_of_trim {value : Text} (h : '\n' ∉ value) (htrim : Text.trim value = value) :
    Line value :=
  ⟨h, fun hlast => absurd ((Text.trim_eq_self_iff.mp htrim).2 _ hlast) (by decide)⟩

theorem line_endpoint (h : '\n' ∉ endpoint params) : Line (endpoint params) := by
  have hdigits : Text.ofNat params.serverPort.toNat ≠ [] := Nat.toDigits_ne_nil
  refine ⟨h, fun hlast => ?_⟩
  rw [endpoint, List.getLast?_append_of_ne_nil _ hdigits] at hlast
  exact absurd (Text.isDigit_of_mem_ofNat (List.mem_of_getLast? hlast)) (by decide)

theorem trim_of_mem_usedPsk {psk : Text} (h : psk ∈ usedPsk presharedKey) : Text.trim psk = psk := by
  obtain ⟨hmap, -⟩ := Option.mem_filter_iff.mp h
  obtain ⟨text, -, rfl⟩ := Option.map_eq_some_iff.mp hmap
  exact Text.trim_trim text

theorem Line.append {front value : Text} (hvalue : Line value) (hfront : Line front) :
    Line (front ++ value) := by
  refine ⟨fun h => (List.mem_append.mp h).elim hfront.1 hvalue.1, ?_⟩
  rw [List.getLast?_append]
  cases hlast : value.getLast? with
  | none => exact hfront.2
  | some c =>
      have hc := hvalue.2
      rwa [hlast] at hc

/-- The lines of a file that holds values without line feeds. -/
theorem lines_configLines (hkey : Text.trim key = key) (hadded : ∀ line ∈ added, Line line)
    (h : ∀ value ∈ inserted params key presharedKey, '\n' ∉ value) :
    Text.lines (Text.unlines (configLines params key presharedKey "10.14.0.2".toList added)) =
      configLines params key presharedKey "10.14.0.2".toList added := by
  simp only [inserted, List.forall_mem_cons, Option.mem_toList] at h
  obtain ⟨hprivate, hendpoint, hpsk⟩ := h
  refine Text.lines_unlines fun line hline => ?_
  simp only [configLines, List.mem_append, List.mem_cons, List.not_mem_nil, or_false, List.mem_map,
    Option.mem_toList] at hline
  obtain (((rfl | rfl) | hline) | (rfl | rfl | rfl | rfl | rfl)) | ⟨psk, hmem, rfl⟩ := hline
  · exact ⟨by decide, by decide⟩
  · exact (line_of_trim hprivate hkey).append ⟨by decide, by decide⟩
  · exact hadded line hline
  · exact ⟨by decide, by decide⟩
  · exact ⟨by decide, by decide⟩
  · exact ⟨by decide, by decide⟩
  · exact (line_endpoint hendpoint).append ⟨by decide, by decide⟩
  · exact ⟨by decide, by decide⟩
  · exact (line_of_trim (hpsk psk hmem) (trim_of_mem_usedPsk hmem)).append ⟨by decide, by decide⟩

/-- Each value has its own line in the file exactly if no value has a line feed in it. -/
theorem start_lines_iff {privateKey : Text} (host : WireGuardHost)
    (hauth : driver.params.authConfig = .wireguardKey privateKey presharedKey)
    (hne : Text.trim privateKey ≠ []) :
    (driver.start host none).result = .ok () ∧
      ∃ text, (driver.start host none).host.config = some text ∧
        (Text.lines text = configLines driver.params (Text.trim privateKey) presharedKey
            "10.14.0.2".toList [] ↔
          ∀ value ∈ inserted driver.params (Text.trim privateKey) presharedKey, '\n' ∉ value) := by
  obtain ⟨hresult, hconfig⟩ := start_eq driver host hauth hne
    (show Text.trim privateKey = Text.trim privateKey ++ smuggled [] by simp [smuggled])
  refine ⟨hresult, _, hconfig, fun hlines => ?_,
    lines_configLines (Text.trim_trim privateKey) (by simp)⟩
  have hfree (front value : Text) (hmem : front ++ value ∈ configLines driver.params
      (Text.trim privateKey) presharedKey "10.14.0.2".toList []) : '\n' ∉ value := by
    rw [← hlines] at hmem
    exact fun h => Text.notMem_of_mem_lines hmem (List.mem_append_right _ h)
  refine List.forall_mem_cons.mpr ⟨hfree "PrivateKey = ".toList _ (by simp [configLines]),
    List.forall_mem_cons.mpr ⟨hfree "Endpoint = ".toList _ (by simp [configLines]),
      fun psk hpsk => hfree "PresharedKey = ".toList _ ?_⟩⟩
  exact List.mem_append_right _ (List.mem_map_of_mem hpsk)

/-- A request with a key that is given with white space around it. -/
def officeParams : ConnectParams where
  profileId := "office".toList
  protocol := .wireguard
  serverEndpoint := "vpn.example.org".toList
  serverPort := 51820
  authConfig := .wireguardKey " aGVsbG8=\n".toList (some "  ".toList)

theorem start_lines_office : ∃ text, ((new officeParams).start {} none).host.config = some text ∧
    Text.lines text = ["[Interface]".toList, "PrivateKey = aGVsbG8=".toList,
      "Address = 10.14.0.2".toList, [], "[Peer]".toList, "Endpoint = vpn.example.org:51820".toList,
      "AllowedIPs = 0.0.0.0/0, ::/0".toList] := by
  obtain ⟨-, text, hconfig, hlines⟩ :=
    start_lines_iff {} (show (new officeParams).params.authConfig = _ from rfl) (by decide)
  exact ⟨text, hconfig, (hlines.mpr (by decide +kernel)).trans (by decide +kernel)⟩

/-- Lines of any kind can come with the private key: the check of the credentials lets them
through. -/
theorem exists_smuggled (params : ConnectParams) (host : WireGuardHost) (hne : key ≠ [])
    (hkey : Text.trim key = key) (hadded : ∀ line ∈ added, Line line)
    (hlast : ∀ line ∈ added.getLast?, ∃ c ∈ line.getLast?, Text.isWhitespace c = false)
    (h : ∀ value ∈ inserted params key presharedKey, '\n' ∉ value) :
    ∃ privateKey text,
      let driver := new { params with authConfig := .wireguardKey privateKey presharedKey }
      (driver.start host none).result = .ok () ∧
        (driver.start host none).host.config = some text ∧
        Text.lines text = configLines params key presharedKey "10.14.0.2".toList added := by
  obtain ⟨hhead, htail⟩ := Text.trim_eq_self_iff.mp hkey
  have htrim : Text.trim (key ++ smuggled added) = key ++ smuggled added := by
    refine Text.trim_eq_self (fun c hc => ?_) (fun c hc => ?_)
    · rw [List.head?_append_of_ne_nil _ hne] at hc
      exact hhead c hc
    · rcases List.eq_nil_or_concat added with rfl | ⟨front, line, rfl⟩
      · exact htail c (by simpa [smuggled] using hc)
      · obtain ⟨d, hd, hspace⟩ := hlast line (by simp)
        have htext : key ++ smuggled (front.concat line) = key ++ smuggled front ++ '\n' :: line := by
          simp [smuggled]
        rw [htext, List.getLast?_append_cons, List.getLast?_cons, hd] at hc
        obtain rfl : d = c := by simpa using hc
        exact hspace
  obtain ⟨hresult, hconfig⟩ := start_eq
    (new { params with authConfig := .wireguardKey (key ++ smuggled added) presharedKey }) host rfl
    hne htrim
  exact ⟨_, _, hresult, hconfig, lines_configLines hkey hadded h⟩

/-- A hook that runs a command as root when the tunnel comes up. -/
theorem exists_smuggled_postUp : ∃ privateKey text,
    let driver := new { officeParams with authConfig := .wireguardKey privateKey none }
    (driver.start {} none).result = .ok () ∧ (driver.start {} none).host.config = some text ∧
      Text.lines text = configLines officeParams "aGVsbG8=".toList none "10.14.0.2".toList
        ["PostUp = cp /etc/shadow /tmp".toList] := by
  have hadded : ∀ line ∈ ["PostUp = cp /etc/shadow /tmp".toList], Line line :=
    List.forall_mem_singleton.mpr ⟨by decide, by decide⟩
  exact exists_smuggled officeParams {} (by decide) (by decide +kernel) hadded
    (by rintro line ⟨⟩; exact ⟨'p', by decide, by decide⟩) (by decide +kernel)

end VpnHub.Daemon.WireGuardDriver
