import HadithService.Proofs.Json.Written
import HadithService.Settings.Format

/-!
# Settings that are read back

Settings are written section by section, without the keys.  From that text they are read back with
every number, every text and every truth value as it was, and with no keys
(`Settings.reads_back_without_keys`).
-/

namespace HadithService.Settings

variable (levels : Nat)

/-! ### Numbers -/

theorem below_written {bound n : Nat} (hn : n < bound) (hbound : bound ≤ UInt64.size) :
  Decoder.below bound levels (Written.ofNat n).draft = some n
  := by
  have hheld := Numeral.number?_ofNat (Nat.lt_of_lt_of_le hn hbound)
  simp [Written.ofNat, Decoder.below, hheld, hn]

theorem word16_written (n : UInt16) :
  word16 levels (Written.ofNat n.toNat).draft = some n
  := by
  rw [word16, below_written levels n.toNat_lt_size (by decide), Option.map_some, UInt16.ofNat_toNat]

theorem word32_written (n : UInt32) :
  word32 levels (Written.ofNat n.toNat).draft = some n
  := by
  rw [word32, below_written levels n.toNat_lt_size (by decide), Option.map_some, UInt32.ofNat_toNat]

theorem word64_written (n : UInt64) :
  word64 levels (Written.ofNat n.toNat).draft = some n
  := by
  rw [word64, below_written levels n.toNat_lt_size (by decide), Option.map_some, UInt64.ofNat_toNat]

/-! ### Sections -/

/-- The fields of the settings of the server as they are written. -/
def writtenServer (s : ServerSettings) : List (String × Option Written) :=
  [("port", some (.ofNat s.port.toNat)), ("public_api_base", some (.ofText? s.publicBase)),
   ("json_logs", some (.bool s.jsonLogs))]

/-- The fields of the settings of the model as they are written. -/
def writtenModel (s : ModelSettings) : List (String × Option Written) :=
  [("api_key", none), ("base_url", some (.text s.baseUrl)), ("model", some (.text s.model)),
   ("request_timeout_secs", some (.ofNat s.timeoutSecs.toNat))]

/-- The fields of the limits as they are written. -/
def writtenLimits (s : LimitSettings) : List (String × Option Written) :=
  [("chat_per_window", some (.ofNat s.chatPerWindow.toNat)),
   ("explain_per_window", some (.ofNat s.explainPerWindow.toNat)),
   ("window_secs", some (.ofNat s.windowSecs.toNat)),
   ("off_topic_threshold", some (.ofNat s.offTopicThreshold.toNat)),
   ("off_topic_timeout_secs", some (.ofNat s.offTopicTimeoutSecs.toNat))]

/-- The fields of the settings of the source of editions as they are written. -/
def writtenUpstream (s : UpstreamSettings) : List (String × Option Written) :=
  [("editions_url", some (.text s.editionsUrl)),
   ("request_timeout_secs", some (.ofNat s.timeoutSecs.toNat)), ("sunnah_api_key", none)]

/-- The fields of the settings of the cache as they are written. -/
def writtenCache (s : CacheSettings) : List (String × Option Written) :=
  [("ttl_secs", some (.ofNat s.ttlSecs.toNat)), ("max_entries", some (.ofNat s.maxEntries.toNat)),
   ("prune_interval_secs", some (.ofNat s.pruneIntervalSecs.toNat))]

theorem serverDecoder_written (s : ServerSettings) :
  serverDecoder (levels + 1) (Written.record (writtenServer s)).draft = some s
  := by
  have hnodup : ((writtenServer s).map Prod.fst).Nodup := by simp [writtenServer]
  have hport : (Written.given levels (writtenServer s)).required "port" word16 = some s.port :=
    Written.required_given hnodup rfl (word16_written levels s.port)
  have hbase : (Written.given levels (writtenServer s)).optionalIfNamed "public_api_base"
      Decoder.text = some s.publicBase := Written.optionalIfNamed_given hnodup rfl
  have hlogs : (Written.given levels (writtenServer s)).required "json_logs" Decoder.bool
      = some s.jsonLogs := Written.required_given hnodup rfl rfl
  apply (Written.structured_record hnodup).trans
  simp [hport, hbase, hlogs]

/-- The settings of the model are read back without the key. -/
theorem modelDecoder_written (s : ModelSettings) :
  modelDecoder (levels + 1) (Written.record (writtenModel s)).draft
    = some { s with apiKey := none }
  := by
  have hnodup : ((writtenModel s).map Prod.fst).Nodup := by simp [writtenModel]
  have hkey : (Written.given levels (writtenModel s)).optionalIfNamed "api_key" Decoder.text
      = some none := Written.optionalIfNamed_left_out hnodup rfl
  have hurl : (Written.given levels (writtenModel s)).required "base_url" Decoder.text
      = some s.baseUrl := Written.required_text_given hnodup rfl
  have hmodel : (Written.given levels (writtenModel s)).required "model" Decoder.text
      = some s.model := Written.required_text_given hnodup rfl
  have htimeout : (Written.given levels (writtenModel s)).required "request_timeout_secs" word64
      = some s.timeoutSecs :=
    Written.required_given hnodup rfl (word64_written levels s.timeoutSecs)
  apply (Written.structured_record hnodup).trans
  simp [hkey, hurl, hmodel, htimeout]

theorem limitsDecoder_written (s : LimitSettings) :
  limitsDecoder (levels + 1) (Written.record (writtenLimits s)).draft = some s
  := by
  have hnodup : ((writtenLimits s).map Prod.fst).Nodup := by simp [writtenLimits]
  have hchat : (Written.given levels (writtenLimits s)).required "chat_per_window" word32
      = some s.chatPerWindow :=
    Written.required_given hnodup rfl (word32_written levels s.chatPerWindow)
  have hexplain : (Written.given levels (writtenLimits s)).required "explain_per_window" word32
      = some s.explainPerWindow :=
    Written.required_given hnodup rfl (word32_written levels s.explainPerWindow)
  have hwindow : (Written.given levels (writtenLimits s)).required "window_secs" word64
      = some s.windowSecs :=
    Written.required_given hnodup rfl (word64_written levels s.windowSecs)
  have hthreshold : (Written.given levels (writtenLimits s)).required "off_topic_threshold" word32
      = some s.offTopicThreshold :=
    Written.required_given hnodup rfl (word32_written levels s.offTopicThreshold)
  have htimeout : (Written.given levels (writtenLimits s)).required "off_topic_timeout_secs" word64
      = some s.offTopicTimeoutSecs :=
    Written.required_given hnodup rfl (word64_written levels s.offTopicTimeoutSecs)
  apply (Written.structured_record hnodup).trans
  simp [hchat, hexplain, hwindow, hthreshold, htimeout]

/-- The settings of the source of editions are read back without the key. -/
theorem upstreamDecoder_written (s : UpstreamSettings) :
  upstreamDecoder (levels + 1) (Written.record (writtenUpstream s)).draft
    = some { s with sunnahApiKey := none }
  := by
  have hnodup : ((writtenUpstream s).map Prod.fst).Nodup := by simp [writtenUpstream]
  have hurl : (Written.given levels (writtenUpstream s)).required "editions_url" Decoder.text
      = some s.editionsUrl := Written.required_text_given hnodup rfl
  have htimeout : (Written.given levels (writtenUpstream s)).required "request_timeout_secs" word64
      = some s.timeoutSecs :=
    Written.required_given hnodup rfl (word64_written levels s.timeoutSecs)
  have hkey : (Written.given levels (writtenUpstream s)).optionalIfNamed "sunnah_api_key"
      Decoder.text = some none := Written.optionalIfNamed_left_out hnodup rfl
  apply (Written.structured_record hnodup).trans
  simp [hurl, htimeout, hkey]

theorem cacheDecoder_written (s : CacheSettings) :
  cacheDecoder (levels + 1) (Written.record (writtenCache s)).draft = some s
  := by
  have hnodup : ((writtenCache s).map Prod.fst).Nodup := by simp [writtenCache]
  have httl : (Written.given levels (writtenCache s)).required "ttl_secs" word64
      = some s.ttlSecs := Written.required_given hnodup rfl (word64_written levels s.ttlSecs)
  have hentries : (Written.given levels (writtenCache s)).required "max_entries" word64
      = some s.maxEntries :=
    Written.required_given hnodup rfl (word64_written levels s.maxEntries)
  have hinterval : (Written.given levels (writtenCache s)).required "prune_interval_secs" word64
      = some s.pruneIntervalSecs :=
    Written.required_given hnodup rfl (word64_written levels s.pruneIntervalSecs)
  apply (Written.structured_record hnodup).trans
  simp [httl, hentries, hinterval]

/-! ### All settings -/

/-- The sections of settings as they are written. -/
def written (s : Settings) : List (String × Option Written) :=
  [("server", some (.record (writtenServer s.server))),
   ("ai", some (.record (writtenModel s.ai))),
   ("rate_limits", some (.record (writtenLimits s.limits))),
   ("upstream", some (.record (writtenUpstream s.upstream))),
   ("cache", some (.record (writtenCache s.cache)))]

theorem toJson_eq (s : Settings) :
  s.toJson = (Written.record s.written).json
  := by
  have hbase : Json.ofText? s.server.publicBase = (Written.ofText? s.server.publicBase).json := by
    cases s.server.publicBase with
    | none => rfl
    | some base => rfl
  rw [toJson, hbase]
  rfl

/-- Settings are read, without the keys, from the sections that are written of them. -/
theorem decoder_written (s : Settings) :
  decoder (levels + 2) (Written.record s.written).draft = some
    { s with
      ai := { s.ai with apiKey := none }
      upstream := { s.upstream with sunnahApiKey := none } }
  := by
  have hnodup : (s.written.map Prod.fst).Nodup := by simp [written]
  have hserver : (Written.given (levels + 1) s.written).required "server" serverDecoder
      = some s.server :=
    Written.required_given hnodup rfl (serverDecoder_written levels s.server)
  have hmodel : (Written.given (levels + 1) s.written).required "ai" modelDecoder
      = some { s.ai with apiKey := none } :=
    Written.required_given hnodup rfl (modelDecoder_written levels s.ai)
  have hlimits : (Written.given (levels + 1) s.written).required "rate_limits" limitsDecoder
      = some s.limits :=
    Written.required_given hnodup rfl (limitsDecoder_written levels s.limits)
  have hupstream : (Written.given (levels + 1) s.written).required "upstream" upstreamDecoder
      = some { s.upstream with sunnahApiKey := none } :=
    Written.required_given hnodup rfl (upstreamDecoder_written levels s.upstream)
  have hcache : (Written.given (levels + 1) s.written).required "cache" cacheDecoder
      = some s.cache :=
    Written.required_given hnodup rfl (cacheDecoder_written levels s.cache)
  apply (Written.structured_record hnodup).trans
  simp [hserver, hmodel, hlimits, hupstream, hcache]

/-- Settings that have been written are read back with no keys and otherwise as they were. -/
theorem reads_back_without_keys (s : Settings) :
  read? s.toJson.render = some
    { s with
      ai := { s.ai with apiKey := none }
      upstream := { s.upstream with sunnahApiKey := none } }
  := by
  rw [read?, toJson_eq, Written.whole?_render]
  apply decoder_written

end HadithService.Settings
