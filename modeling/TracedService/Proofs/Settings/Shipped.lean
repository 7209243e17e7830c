import TracedService.Proofs.Settings.Template
import TracedService.Proofs.Settings.Validity
import TracedService.Proofs.Text.Codes
import TracedService.Settings.Loading
import TracedService.Settings.Shipped

/-! The settings file that comes with the service, loaded in an arbitrary environment. -/

namespace TracedService.Settings

open Yaml (Document Section Item Verbatim sheetItems wordScalar)

/-- The shipped file as a template. -/
def shippedSheet : List (Section Slot) :=
  [
    { notes := ["# Tracer Bootstrap configuration".toList]
      name := "server".toList
      fields := [("address".toList, .place "SERVER_ADDRESS" "0.0.0.0:8080")] },
    { notes := [[]]
      name := "service".toList
      fields := [
        ("name".toList, .place "SERVICE_NAME" "orders-api"),
        ("environment".toList, .place "ENVIRONMENT" "development"),
        ("module".toList, .place "MODULE" "orders")] },
    { notes := [[]]
      name := "logging".toList
      fields := [("level".toList, .fixed "info"), ("format".toList, .fixed "json")] },
    { notes := [
        [],
        ("# Remove this section to read TRACING_TOOL, OTLP_ENDPOINT, " ++
          "GOOGLE_CLOUD_PROJECT,").toList,
        "# JAEGER_ENDPOINT and TRACER_SAMPLING_RATE from the environment instead.".toList]
      name := "tracing".toList
      fields := [
        ("tool".toList, .place "TRACING_TOOL" "STDOUT"),
        ("otlp_endpoint".toList, .place "OTLP_ENDPOINT" ""),
        ("google_cloud_project".toList, .place "GOOGLE_CLOUD_PROJECT" ""),
        ("jaeger_endpoint".toList, .place "JAEGER_ENDPOINT" "http://localhost:4317"),
        ("sampling_rate".toList, .place "TRACER_SAMPLING_RATE" "1.0"),
        ("collector_protocol".toList, .fixed "grpc")] }]

def shippedVariables : List String :=
  ["SERVER_ADDRESS", "SERVICE_NAME", "ENVIRONMENT", "MODULE", "TRACING_TOOL", "OTLP_ENDPOINT",
    "GOOGLE_CLOUD_PROJECT", "JAEGER_ENDPOINT", "TRACER_SAMPLING_RATE"]

theorem toList_shipped :
    shipped.toList = shippedLines.flatMap fun line => line.toList ++ ['\n'] := by
  simp [shipped, String.toList_join, List.flatMap_map]

theorem shipped_eq : shipped.toList = shippedSheet.flatMap Section.draft := by
  rw [toList_shipped]
  decide +kernel

theorem fillable_shipped : ∀ s ∈ shippedSheet, s.Fillable shippedVariables := by
  decide +kernel

theorem isAscii_shipped : ∀ c ∈ shipped.toList, Text.isAscii c = true := by
  have hlines : (shippedLines.all fun line => line.toList.all Text.isAscii) = true := by
    decide +kernel
  intro c hc
  rw [toList_shipped, List.mem_flatMap] at hc
  obtain ⟨line, hline, hc⟩ := hc
  rcases List.mem_append.mp hc with hc | hc
  · exact List.all_eq_true.mp (List.all_eq_true.mp hlines line hline) c hc
  · cases List.mem_singleton.mp hc
    rfl

theorem text_ofText {s : String} (hs : ∀ c ∈ s.toList, Text.isAscii c = true) :
    (FileContent.ofText s).text = .ok s := by
  have hdecode : Text.Utf8.decodeText? (Text.Utf8.encodeText s) = some s := by
    rw [Text.Utf8.encodeText, Text.Utf8.encode_of_isAscii hs, Text.Utf8.decodeText?,
      Text.Utf8.decode?_of_isAscii hs]
    simp
  simp only [FileContent.ofText, FileContent.text, hdecode]

/-- What the shipped file is meant to say: the value of a variable where it is set, as it is. -/
def shippedSettings (env : Environment) : Settings where
  serverAddress := (env.text? "SERVER_ADDRESS").getD "0.0.0.0:8080"
  identity := {
    name := (env.text? "SERVICE_NAME").getD "orders-api"
    environment := (env.text? "ENVIRONMENT").getD "development"
    module := (env.text? "MODULE").getD "orders" }
  logging := { level := "info", format := "json" }
  tracing := some {
    tool := (env.text? "TRACING_TOOL").getD "STDOUT"
    otlpEndpoint := (env.text? "OTLP_ENDPOINT").getD ""
    googleCloudProject := (env.text? "GOOGLE_CLOUD_PROJECT").getD ""
    jaegerEndpoint := (env.text? "JAEGER_ENDPOINT").getD "http://localhost:4317"
    samplingRate := (env.text? "TRACER_SAMPLING_RATE").getD "1.0"
    collectorProtocol := "grpc"
    exportTimeout := 10
    startupTimeout := 10 }

variable {env : Environment}

/-- The reader gets what the slots are filled with to its place. -/
theorem run_shipped (fill : Slot → List Char) (d : Document)
    (hd : d = ⟨sheetItems (shippedSheet.map (Section.map fill)), [], none, true⟩) :
    (Reader.whole d).run d.items = .ok ({
      serverAddress := String.ofList (fill (.place "SERVER_ADDRESS" "0.0.0.0:8080"))
      identity := {
        name := String.ofList (fill (.place "SERVICE_NAME" "orders-api"))
        environment := String.ofList (fill (.place "ENVIRONMENT" "development"))
        module := String.ofList (fill (.place "MODULE" "orders")) }
      logging := {
        level := String.ofList (fill (.fixed "info"))
        format := String.ofList (fill (.fixed "json")) }
      tracing := some {
        tool := String.ofList (fill (.place "TRACING_TOOL" "STDOUT"))
        otlpEndpoint := String.ofList (fill (.place "OTLP_ENDPOINT" ""))
        googleCloudProject := String.ofList (fill (.place "GOOGLE_CLOUD_PROJECT" ""))
        jaegerEndpoint :=
          String.ofList (fill (.place "JAEGER_ENDPOINT" "http://localhost:4317"))
        samplingRate := String.ofList (fill (.place "TRACER_SAMPLING_RATE" "1.0"))
        collectorProtocol := String.ofList (fill (.fixed "grpc")) } }, []) := by
  subst hd
  rfl

theorem read_shipped (henv : env.Quotable shippedVariables) :
    Reader.read (expand env shipped.toList) = .ok (shippedSettings env) := by
  let d : Document := ⟨sheetItems (shippedSheet.map (Section.filled env)), [], none, true⟩
  have hrun : (Reader.whole d).run d.items = .ok (shippedSettings env, []) := by
    refine (run_shipped (fun slot => (slot.value env).toList) d rfl).trans ?_
    simp only [String.ofList_toList]
    rfl
  have hitems : d.items.isEmpty = false := rfl
  have hdocument : Document.ofText (expand env shipped.toList) = d := by
    rw [shipped_eq]
    exact ofText_template (by decide) fillable_shipped henv
  rw [Reader.read, hdocument]
  simp only [hitems, hrun]
  rfl

/-- Level and format are fixed, so that only the address and the name can break a rule. -/
theorem fault?_shipped
    (haddress : (SocketAddress.read? (shippedSettings env).serverAddress).isSome = true)
    (hname : Text.trimmed (shippedSettings env).identity.name ≠ "") :
    (shippedSettings env).fault? = none := by
  refine fault?_eq_none_iff.mpr fun field => ?_
  cases field with
  | address => exact Option.isSome_iff_exists.mp haddress
  | name =>
    refine Field.name_sound_iff.mpr ?_
    rw [← Bool.not_eq_true, Text.isBlankText_iff]
    exact hname
  | level =>
    change NamesLevel "info"
    decide +kernel
  | format => exact .inl rfl

theorem load_of_read {content : String} {s : Settings}
    (hfile : (FileContent.ofText content).text = .ok content)
    (hread : Reader.read (expand env content.toList) = .ok s) (hrules : s.fault? = none) :
    load env (.ofText content) = .ok s :=
  load_eq_ok_iff.mpr
    ⟨content, hfile, hread, validate_eq_ok_iff.mpr (fault?_eq_none_iff.mp hrules)⟩

/-- The shipped file says what it is meant to say, whatever its variables are set to: no value can
end its quotes, start a comment or be expanded again. -/
theorem load_shipped (henv : env.Quotable shippedVariables)
    (haddress : (SocketAddress.read? (shippedSettings env).serverAddress).isSome = true)
    (hname : Text.trimmed (shippedSettings env).identity.name ≠ "") :
    load env (.ofText shipped) = .ok (shippedSettings env) :=
  load_of_read (text_ofText isAscii_shipped) (read_shipped henv) (fault?_shipped haddress hname)

/-- Values that would mean something if they were read as YAML or expanded again. -/
def unruly : Environment :=
  ⟨[
    ("SERVER_ADDRESS", Text.Utf8.encodeText "[::1]:8080"),
    ("SERVICE_NAME", Text.Utf8.encodeText " a: b # 'c' $\x7bENVIRONMENT:-d\x7d"),
    ("ENVIRONMENT", []),
    ("MODULE", Text.Utf8.encodeText "- [$\x7bMODULE\x7d, ~]"),
    ("TRACING_TOOL", Text.Utf8.encodeText "null")]⟩

theorem load_shipped_unruly :
    unruly.Quotable shippedVariables ∧
      (SocketAddress.read? (shippedSettings unruly).serverAddress).isSome = true ∧
      Text.trimmed (shippedSettings unruly).identity.name ≠ "" ∧
      load unruly (.ofText shipped) = .ok {
        serverAddress := "[::1]:8080"
        identity := ⟨" a: b # 'c' $\x7bENVIRONMENT:-d\x7d", "", "- [$\x7bMODULE\x7d, ~]"⟩
        logging := ⟨"info", "json"⟩
        tracing := some {
          tool := "null"
          jaegerEndpoint := "http://localhost:4317"
          samplingRate := "1.0" } } := by
  have henv : unruly.Quotable shippedVariables := by decide +kernel
  have haddress :
      (SocketAddress.read? (shippedSettings unruly).serverAddress).isSome = true := by
    decide +kernel
  have hname : Text.trimmed (shippedSettings unruly).identity.name ≠ "" := by decide +kernel
  refine ⟨henv, haddress, hname, (load_shipped henv haddress hname).trans ?_⟩
  exact congrArg Except.ok (by decide +kernel)

end TracedService.Settings
