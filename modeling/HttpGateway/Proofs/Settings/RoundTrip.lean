/-
Settings written down and read back.

* one **schema** for each section: its fields with their formats, and the values that hold where
  they are missing.
* `read_again` — settings that were read from a file come back from what they are written down as,
  and from all that is left of it when keys with default values are taken out.
-/
import HttpGateway.Proofs.Settings.Schema
import HttpGateway.Settings.Load

namespace HttpGateway.Settings

open Number Toml

/-! ### The sections -/

open Format

def Listener.schema : Schema Listener where
  fields := [
    .common {} "bind_address" .text (·.bindAddress) (holds_text _),
    .common {} "max_in_flight" (.nat 64) (·.maxInFlight) (holds_nat (by decide)),
    .common {} "max_content_length" (.nat 64) (·.maxContentLength) (holds_nat (by decide))]
  encode := Listener.encode
  decode := Listener.decode
  distinct := by decide
  encode_eq _ := rfl
  decode_iff {v x} := by
    cases x
    simp [Listener.decode, Option.bind_eq_some_iff]

def Timeouts.schema : Schema Timeouts where
  fields := [
    .common {} "connect_ms" (.nat 64) (·.connectMs) (holds_nat (by decide)),
    .common {} "write_ms" (.nat 64) (·.writeMs) (holds_nat (by decide)),
    .common {} "response_ms" (.nat 64) (·.responseMs) (holds_nat (by decide)),
    .common {} "idle_secs" (.nat 64) (·.idleSecs) (holds_nat (by decide))]
  encode := Timeouts.encode
  decode := Timeouts.decode
  distinct := by decide
  encode_eq _ := rfl
  decode_iff {v x} := by
    cases x
    simp [Timeouts.decode, Option.bind_eq_some_iff]

/-- Actions by their names. -/
def AcquireTimeoutAction.format : Format AcquireTimeoutAction where
  layout := .plain
  encode := AcquireTimeoutAction.encode
  decode := AcquireTimeoutAction.decode
  fits {v x} _ _ := by cases x <;> exact .text _
  again {v v' x} _ hv := by
    rw [hv.plain]
    cases x <;> rfl

def PoolLimits.schema : Schema PoolLimits where
  fields := [
    .common {} "max_connections_per_host" (.nat 64) (·.maxConnectionsPerHost)
      (holds_nat (by decide)),
    .common {} "max_pending_acquires" (.nat 64) (·.maxPendingAcquires) (holds_nat (by decide)),
    .common {} "acquire_timeout_ms" (.nat 64) (·.acquireTimeoutMs) (holds_nat (by decide)),
    .common {} "acquire_timeout_action" AcquireTimeoutAction.format (·.acquireTimeoutAction)
      ⟨.text _, rfl⟩,
    .common {} "sweep_interval_secs" (.nat 64) (·.sweepIntervalSecs) (holds_nat (by decide))]
  encode := PoolLimits.encode
  decode := PoolLimits.decode
  distinct := by decide
  encode_eq _ := rfl
  decode_iff {v x} := by
    cases x
    simp [PoolLimits.decode, AcquireTimeoutAction.format, Option.bind_eq_some_iff]

def Retries.schema : Schema Retries where
  fields := [
    .common {} "max_retries" .int (·.maxRetries) (holds_int (by decide)),
    .common {} "base_delay_ms" (.nat 64) (·.baseDelayMs) (holds_nat (by decide)),
    .common {} "max_delay_ms" (.nat 64) (·.maxDelayMs) (holds_nat (by decide))]
  encode := Retries.encode
  decode := Retries.decode
  distinct := by decide
  encode_eq _ := rfl
  decode_iff {v x} := by
    cases x
    simp [Retries.decode, Option.bind_eq_some_iff]

def Resilience.schema : Schema Resilience where
  fields := [
    .common {} "enabled" .bool (·.enabled) (holds_bool _),
    .common {} "failure_rate_threshold" .float (·.failureRateThreshold)
      (holds_float (by decide +kernel)),
    .common {} "slow_call_rate_threshold" .float (·.slowCallRateThreshold)
      (holds_float (by decide +kernel)),
    .common {} "slow_call_duration_ms" (.nat 64) (·.slowCallDurationMs) (holds_nat (by decide)),
    .common {} "wait_duration_in_open_state_ms" (.nat 64) (·.waitDurationInOpenStateMs)
      (holds_nat (by decide)),
    .common {} "permitted_calls_in_half_open_state" (.nat 32) (·.permittedCallsInHalfOpenState)
      (holds_nat (by decide)),
    .common {} "minimum_number_of_calls" (.nat 32) (·.minimumNumberOfCalls) (holds_nat (by decide)),
    .common {} "sliding_window_secs" (.nat 64) (·.slidingWindowSecs) (holds_nat (by decide))]
  encode := Resilience.encode
  decode := Resilience.decode
  distinct := by decide
  encode_eq _ := rfl
  decode_iff {v x} := by
    cases x
    simp [Resilience.decode, Option.bind_eq_some_iff, -Bool.exists_bool]

def HealthCheck.schema : Schema HealthCheck where
  fields := [
    .common {} "enabled" .bool (·.enabled) (holds_bool _),
    .common {} "interval_secs" (.nat 64) (·.intervalSecs) (holds_nat (by decide)),
    .common {} "timeout_secs" (.nat 64) (·.timeoutSecs) (holds_nat (by decide)),
    .common {} "path" .text (·.path) (holds_text _),
    .common {} "unhealthy_threshold" (.nat 32) (·.unhealthyThreshold) (holds_nat (by decide)),
    .common {} "healthy_threshold" (.nat 32) (·.healthyThreshold) (holds_nat (by decide))]
  encode := HealthCheck.encode
  decode := HealthCheck.decode
  distinct := by decide
  encode_eq _ := rfl
  decode_iff {v x} := by
    cases x
    simp [HealthCheck.decode, Option.bind_eq_some_iff, -Bool.exists_bool]

def Observability.schema : Schema Observability where
  fields := [
    .common {} "log_level" .text (·.logLevel) (holds_text _),
    .common {} "metrics_enabled" .bool (·.metricsEnabled) (holds_bool _),
    .common {} "metrics_address" .text (·.metricsAddress) (holds_text _)]
  encode := Observability.encode
  decode := Observability.decode
  distinct := by decide
  encode_eq _ := rfl
  decode_iff {v x} := by
    cases x
    simp [Observability.decode, Option.bind_eq_some_iff, -Bool.exists_bool]

def FilterSpec.schema : Schema FilterSpec where
  fields := [
    .required "name" .text (·.name),
    .optional "args" .args (·.args) [] holds_no_args,
    .optional "order" .int (·.order) 0 (holds_int (by decide))]
  encode := FilterSpec.encode
  decode := FilterSpec.decode
  distinct := by decide
  encode_eq _ := rfl
  decode_iff {v x} := by
    cases x
    simp [FilterSpec.decode, Option.bind_eq_some_iff]

/-- Ways of balancing by their names. -/
def Balancing.format : Format Balancing where
  layout := .plain
  encode := Balancing.encode
  decode := Balancing.decode
  fits {v x} _ _ := by cases x <;> exact .text _
  again {v v' x} _ hv := by
    rw [hv.plain]
    cases x <;> rfl

def HeaderRule.schema : Schema HeaderRule where
  fields := [
    .required "name" .text (·.name),
    .required "values" (.list .text) (·.values)]
  encode := HeaderRule.encode
  decode := HeaderRule.decode
  distinct := by decide
  encode_eq _ := rfl
  decode_iff {v x} := by
    cases x
    simp [HeaderRule.decode, Option.bind_eq_some_iff]

/-- A percentage in a table of its own. -/
def percentageSchema : Schema Nat where
  fields := [.required "percentage" (.nat 8) id]
  encode := encodePercentage
  decode := decodePercentage
  distinct := by decide
  encode_eq _ := rfl
  decode_iff {v x} := by
    simp [decodePercentage, Option.bind_eq_some_iff]

/-- Ranges of addresses in a table of their own. -/
def rangesSchema : Schema (List String) where
  fields := [.required "ranges" (.list .text) id]
  encode := encodeRanges
  decode := decodeRanges
  distinct := by decide
  encode_eq _ := rfl
  decode_iff {v x} := by
    simp [decodeRanges, Option.bind_eq_some_iff]

def GrayRelease.schema : Schema GrayRelease where
  fields := [
    .optional "enabled" .bool (·.enabled) false (holds_bool _),
    .absent "header" HeaderRule.schema.format (·.header),
    .absent "user_id" percentageSchema.format (·.userPercentage),
    .absent "ip" rangesSchema.format (·.addressRanges),
    .absent "percentage" percentageSchema.format (·.requestPercentage)]
  encode := GrayRelease.encode
  decode := GrayRelease.decode
  distinct := by decide
  encode_eq x := by
    obtain ⟨enabled, header, user, ranges, share⟩ := x
    cases header <;> cases user <;> cases ranges <;> cases share <;> rfl
  decode_iff {v x} := by
    cases x
    simp [GrayRelease.decode, Schema.format, HeaderRule.schema, percentageSchema, rangesSchema,
      Option.bind_eq_some_iff, -Bool.exists_bool]

def InstanceSpec.schema : Schema InstanceSpec where
  fields := [
    .required "service_id" .text (·.serviceId),
    .required "url" .text (·.url),
    .optional "weight" (.nat 32) (·.weight) 1 (holds_nat (by decide)),
    .optional "healthy" .bool (·.healthy) true (holds_bool _),
    .optional "gray" .bool (·.gray) false (holds_bool _)]
  encode := InstanceSpec.encode
  decode := InstanceSpec.decode
  distinct := by decide
  encode_eq _ := rfl
  decode_iff {v x} := by
    cases x
    simp [InstanceSpec.decode, Option.bind_eq_some_iff, -Bool.exists_bool]

def RouteSpec.schema : Schema RouteSpec where
  fields := [
    .required "id" .text (·.id),
    .required "path" .text (·.path),
    .optional "load_balancer" Balancing.format (·.balancing) .roundRobin ⟨.text _, rfl⟩,
    .absent "gray_release" GrayRelease.schema.format (·.grayRelease),
    .optional "filters" (.list FilterSpec.schema.format) (·.filters) [] (holds_nil _),
    .absent "resilient" .bool (·.resilient),
    .optional "instances" (.list InstanceSpec.schema.format) (·.instances) [] (holds_nil _)]
  encode := RouteSpec.encode
  decode := RouteSpec.decode
  distinct := by decide
  encode_eq x := by
    obtain ⟨id, path, balancing, gray, filters, resilient, instances⟩ := x
    cases gray <;> cases resilient <;> rfl
  decode_iff {v x} := by
    cases x
    simp [RouteSpec.decode, Schema.format, Balancing.format, GrayRelease.schema, FilterSpec.schema,
      InstanceSpec.schema, Option.bind_eq_some_iff, -Bool.exists_bool]

def FallbackSpec.schema : Schema FallbackSpec where
  fields := [
    .required "service_id" .text (·.serviceId),
    .optional "status" (.nat 16) (·.status) 200 (holds_nat (by decide)),
    .required "body" .text (·.body),
    .optional "content_type" .text (·.contentType) "application/json" (holds_text _)]
  encode := FallbackSpec.encode
  decode := FallbackSpec.decode
  distinct := by decide
  encode_eq _ := rfl
  decode_iff {v x} := by
    cases x
    simp [FallbackSpec.decode, Option.bind_eq_some_iff]

/-- All settings. -/
def schema : Schema Settings where
  fields := [
    .common {} "listener" Listener.schema.format (·.listener) (holds_unset rfl),
    .common {} "timeouts" Timeouts.schema.format (·.timeouts) (holds_unset rfl),
    .common {} "pool" PoolLimits.schema.format (·.pool) (holds_unset rfl),
    .common {} "retries" Retries.schema.format (·.retries) (holds_unset rfl),
    .common {} "resilience" Resilience.schema.format (·.resilience) (holds_unset rfl),
    .common {} "health_check" HealthCheck.schema.format (·.healthCheck) (holds_unset rfl),
    .common {} "observability" Observability.schema.format (·.observability) (holds_unset rfl),
    .common {} "filters" (.list FilterSpec.schema.format) (·.filters) (holds_nil _),
    .common {} "routes" (.list RouteSpec.schema.format) (·.routes) (holds_nil _),
    .common {} "fallbacks" (.list FallbackSpec.schema.format) (·.fallbacks) (holds_nil _)]
  encode := Settings.encode
  decode := Settings.decode
  distinct := by decide
  encode_eq _ := rfl
  decode_iff {v x} := by
    cases x
    simp [Settings.decode, Schema.format, Listener.schema, Timeouts.schema, PoolLimits.schema,
      Retries.schema, Resilience.schema, HealthCheck.schema, Observability.schema,
      FilterSpec.schema, RouteSpec.schema, FallbackSpec.schema, Option.bind_eq_some_iff]

/-- Which keys of the settings may be left out, and what then holds. -/
def layout : Layout := schema.format.layout

/-- **Settings that were read come back.** What is read from a file is written down as a value that
fits the file format. The same settings, in every field, are read from that value, and also from all
that is left of it when keys are taken out, at any depth, that hold just what holds without them. -/
theorem read_again {text : String} {s : Settings} (h : parse text = .ok s) :
    s.encode.Fits ∧ decode s.encode = some s ∧
      ∀ v, Trimmed layout s.encode v → decode v = some s := by
  have hdecoded : ∃ v, Toml.parse text = some v ∧ decode v = some s := by
    unfold parse at h
    split at h
    · simp at h
    · next read hread =>
      unfold accept at h
      split at h
      · obtain rfl := Except.ok.inj h
        exact Option.bind_eq_some_iff.mp hread
      · simp at h
  obtain ⟨v, hv, hs⟩ := hdecoded
  have hagain : ∀ v', Trimmed layout s.encode v' → decode v' = some s :=
    fun v' hleft => schema.format.again hs hleft
  exact ⟨schema.format.fits (fits_of_parse hv) hs, hagain _ (.same _ _), hagain⟩

/-- A threshold that has no finite binary digits, and a filter. Any sections that are as they are
without any settings can be taken out. -/
theorem read_again_one_tenth :
    let text := "resilience.failure_rate_threshold = 0.1\n[[filters]]\nname = \"AuthFilter\"\n"
    ∃ s, parse text = .ok s ∧ s.resilience.failureRateThreshold = .finite (13421773 / 134217728) ∧
      decode s.encode = some s ∧ ∃ es, s.encode = .table es ∧
        ∀ removed : List String, (∀ name ∈ removed, name ∈ ["listener", "timeouts", "pool", "retries",
          "health_check", "observability", "routes", "fallbacks"]) →
          decode (.table (es.filter (·.1 ∉ removed))) = some s := by
  intro text
  let s : Settings :=
    { resilience := { failureRateThreshold := .finite (13421773 / 134217728) }
      filters := [{ name := "AuthFilter" }] }
  have hread : (Toml.parse text).bind decode = some s := by decide +kernel
  have hproblems : s.problems Filter.builtinNames = [] := by decide +kernel
  have hparse : parse text = .ok s := by
    unfold parse
    rw [hread]
    simp only [accept, hproblems]
  obtain ⟨-, hagain, htrimmed⟩ := read_again hparse
  refine ⟨s, hparse, rfl, hagain, _, rfl, fun removed hremoved => htrimmed _ ?_⟩
  -- Whatever is taken out has the value that it has by default.
  refine Trimmed.filter removed fun k hk hmem v hv => ?_
  have hname := hremoved k.1 hmem
  obtain ⟨f, hf, rfl⟩ := List.mem_map.mp hk
  simp only [schema, List.mem_cons, List.not_mem_nil, or_false] at hf
  rcases hf with rfl | rfl | rfl | rfl | rfl | rfl | rfl | rfl | rfl | rfl
  all_goals first | exact hv | exact absurd hname (by decide)

end HttpGateway.Settings
