import DebugRouter.Library.JsonRoundTrip
import DebugRouter.Library.CoercionRoundTrip

/-!
The daemon's command line. A `MultiplexerDaemonManager` writes its options as `--key value` pairs,
and the daemon's entry reads them back; a value that starts with `--` is taken for a missing one.
-/
namespace DebugRouter.Manager

open Library JsonText List Option

/-- An options object as the manager holds it: JSON with finite numbers, each key once. -/
structure JsonObject where
  value : Json
  object : value.isObject = true
  plain : value.normalize = value

structure WebSocketOption (ν : Type) where
  port : Option ν
  roomId : Option String

/-- The fields of `MultiplexerDaemonManager` that go to the daemon. -/
structure DaemonOption where
  controlEndpoint : String
  localProtocolVersion : Double
  multiplexerDaemonIdleTimeout : Double
  debugInfo : Option JsonObject
  legacyDriverDir : Option String
  enableWebSocket : Option Bool
  websocketOption : Option (WebSocketOption Double)
  connectionTrace : Option JsonObject
  physicalConnectorOption : Option JsonObject

def numberString (x : Double) : String := String.ofList (numberText (.finite x))

def boolString (b : Bool) : String := if b then "true" else "false"

def push (flag : String) (value : Option String) (args : List String) : List String :=
  match value with
  | some value => args ++ [flag, value]
  | none => args

def createDaemonEntryArgs (m : DaemonOption) : List String :=
  let args := ["--control-endpoint", m.controlEndpoint,
    "--protocol-version", numberString m.localProtocolVersion,
    "--multiplexer-daemon-idle-timeout", numberString m.multiplexerDaemonIdleTimeout]
  let args := push "--debug-info" (m.debugInfo.map fun o => stringify o.value) args
  let args := push "--legacy-driver-dir" m.legacyDriverDir args
  let args := push "--enable-websocket" (m.enableWebSocket.map boolString) args
  let args := push "--websocket-port" ((m.websocketOption.bind (·.port)).map numberString) args
  let args := push "--websocket-room-id" (m.websocketOption.bind (·.roomId)) args
  let args := push "--connection-trace" (m.connectionTrace.map fun o => stringify o.value) args
  push "--physical-connector-option" (m.physicalConnectorOption.map fun o => stringify o.value) args

inductive EntryArgKey where
  | controlEndpoint | protocolVersion | debugInfo | legacyDriverDir | multiplexerDaemonIdleTimeout
  | enableWebSocket | connectionTrace | websocketPort | websocketRoomId | physicalConnectorOption
  /-- What `OPTION_KEY_MAP` inherits from `Object.prototype`: truthy, and the name of no field. -/
  | inherited
  deriving DecidableEq

def EntryArgKey.name : EntryArgKey → String
  | controlEndpoint => "controlEndpoint"
  | protocolVersion => "protocolVersion"
  | debugInfo => "debugInfo"
  | legacyDriverDir => "legacyDriverDir"
  | multiplexerDaemonIdleTimeout => "multiplexerDaemonIdleTimeout"
  | enableWebSocket => "enableWebSocket"
  | connectionTrace => "connectionTrace"
  | websocketPort => "websocketPort"
  | websocketRoomId => "websocketRoomId"
  | physicalConnectorOption => "physicalConnectorOption"
  | inherited => "[object Object]"

def objectPrototype : List String :=
  ["constructor", "__defineGetter__", "__defineSetter__", "hasOwnProperty", "__lookupGetter__",
    "__lookupSetter__",
    "isPrototypeOf", "propertyIsEnumerable", "toString", "valueOf", "__proto__", "toLocaleString"]

def optionKeyMap (rawKey : String) : Option EntryArgKey :=
  match rawKey with
  | "control-endpoint" => some .controlEndpoint
  | "protocol-version" => some .protocolVersion
  | "debug-info" => some .debugInfo
  | "legacy-driver-dir" => some .legacyDriverDir
  | "multiplexer-daemon-idle-timeout" => some .multiplexerDaemonIdleTimeout
  | "enable-websocket" => some .enableWebSocket
  | "connection-trace" => some .connectionTrace
  | "websocket-port" => some .websocketPort
  | "websocket-room-id" => some .websocketRoomId
  | "physical-connector-option" => some .physicalConnectorOption
  | rawKey => if rawKey ∈ objectPrototype then some .inherited else none

inductive EntryError where
  | unexpectedArgument (arg : String)
  | unknownOption (rawKey : String)
  | missingValue (rawKey : String)
  | missingRequired (key : EntryArgKey)
  | invalidJson

def EntryError.message : EntryError → Option String
  | unexpectedArgument arg => some ("Unexpected multiplexer daemon argument: " ++ arg)
  | unknownOption rawKey => some ("Unknown multiplexer daemon option: " ++ rawKey)
  | missingValue rawKey => some ("Missing value for multiplexer daemon option: " ++ rawKey)
  | missingRequired key => some ("Missing required multiplexer daemon option: " ++ key.name)
  | invalidJson => none

abbrev RawEntryArgs := EntryArgKey → Option String

def startsWithDashes (text : String) : Bool := ['-', '-'].isPrefixOf text.toList

def parseRawArgs (rawArgs : RawEntryArgs) : List String → Except EntryError RawEntryArgs
  | [] => .ok rawArgs
  | arg :: rest =>
    if ¬ startsWithDashes arg then .error (.unexpectedArgument arg)
    else
      let rawKey := String.ofList (arg.toList.drop 2)
      match optionKeyMap rawKey with
      | none => .error (.unknownOption rawKey)
      | some key =>
        match rest with
        | [] => .error (.missingValue rawKey)
        | value :: rest =>
          if startsWithDashes value then .error (.missingValue rawKey)
          else parseRawArgs (Function.update rawArgs key (some value)) rest

def getRequiredArg (rawArgs : RawEntryArgs) (key : EntryArgKey) : Except EntryError String :=
  match rawArgs key with
  | none => .error (.missingRequired key)
  | some value => .ok value

/-- `MultiplexerDaemonEntryOption`; a number that is `none` is not-a-number. -/
structure EntryOption where
  controlEndpoint : String
  protocolVersion : Option JsNumber
  multiplexerDaemonIdleTimeout : Option JsNumber
  debugInfo : Option Json
  legacyDriverDir : Option String
  enableWebSocket : Option Bool
  connectionTrace : Option Json
  websocketOption : Option (WebSocketOption (Option JsNumber))
  physicalConnectorOption : Option Json

def parseJsonArg : Option String → Except EntryError (Option Json)
  | none => .ok none
  | some text =>
    match parse text with
    | some v => .ok (some v)
    | none => .error .invalidJson

def websocketArgs (port roomId : Option String) : Option (WebSocketOption (Option JsNumber)) :=
  if port.isSome ∨ roomId.isSome then some ⟨port.map fun text => stringToNumber text.toList, roomId⟩
  else none

def parseEntryOption (argv : List String) : Except EntryError EntryOption := do
  let rawArgs ← parseRawArgs (fun _ => none) argv
  let controlEndpoint ← getRequiredArg rawArgs .controlEndpoint
  let protocolVersion ← getRequiredArg rawArgs .protocolVersion
  let idleTimeout ← getRequiredArg rawArgs .multiplexerDaemonIdleTimeout
  let debugInfo ← parseJsonArg (rawArgs .debugInfo)
  let connectionTrace ← parseJsonArg (rawArgs .connectionTrace)
  let physicalConnectorOption ← parseJsonArg (rawArgs .physicalConnectorOption)
  return {
    controlEndpoint
    protocolVersion := stringToNumber protocolVersion.toList
    multiplexerDaemonIdleTimeout := stringToNumber idleTimeout.toList
    debugInfo
    legacyDriverDir := rawArgs .legacyDriverDir
    enableWebSocket := (rawArgs .enableWebSocket).map (· == "true")
    connectionTrace
    websocketOption := websocketArgs (rawArgs .websocketPort) (rawArgs .websocketRoomId)
    physicalConnectorOption }

/-- The entry's option says what the manager's does. An absent `websocketOption` has neither port
nor room. -/
structure EntryOption.Agrees (e : EntryOption) (m : DaemonOption) : Prop where
  controlEndpoint : e.controlEndpoint = m.controlEndpoint
  protocolVersion : e.protocolVersion = some (.finite m.localProtocolVersion)
  idleTimeout : e.multiplexerDaemonIdleTimeout = some (.finite m.multiplexerDaemonIdleTimeout)
  debugInfo : e.debugInfo = m.debugInfo.map (·.value)
  legacyDriverDir : e.legacyDriverDir = m.legacyDriverDir
  enableWebSocket : e.enableWebSocket = m.enableWebSocket
  connectionTrace : e.connectionTrace = m.connectionTrace.map (·.value)
  websocketPort : e.websocketOption.bind (·.port) =
    (m.websocketOption.bind (·.port)).map fun x => some (.finite x)
  websocketRoomId : e.websocketOption.bind (·.roomId) = m.websocketOption.bind (·.roomId)
  physicalConnectorOption : e.physicalConnectorOption = m.physicalConnectorOption.map (·.value)

/- The arguments as pairs of a key and a value that may be left out -/

structure ArgEntry where
  flag : String
  key : EntryArgKey
  value : Option String
  /-- The flag is the one `parseRawArgs` knows for the key. -/
  known : startsWithDashes flag = true ∧ optionKeyMap (String.ofList (flag.toList.drop 2)) = some key

def ArgEntry.args (e : ArgEntry) : List String :=
  match e.value with
  | some value => [e.flag, value]
  | none => []

def ArgEntry.put (rawArgs : RawEntryArgs) (e : ArgEntry) : RawEntryArgs :=
  match e.value with
  | some value => Function.update rawArgs e.key (some value)
  | none => rawArgs

theorem ArgEntry.put_apply (rawArgs : RawEntryArgs) (e : ArgEntry) (key : EntryArgKey) :
    e.put rawArgs key = if key = e.key then e.value <|> rawArgs key else rawArgs key := by
  unfold put
  cases e.value with
  | none => simp
  | some value => simp [Function.update_apply]

theorem parseRawArgs_entries {es : List ArgEntry}
    (h : ∀ e ∈ es, ∀ v ∈ e.value, startsWithDashes v = false)
    (rawArgs : RawEntryArgs) :
    parseRawArgs rawArgs (es.flatMap ArgEntry.args) = .ok (es.foldl ArgEntry.put rawArgs) := by
  induction es generalizing rawArgs with
  | nil => rfl
  | cons e es ih =>
    have later := ih fun e' mem => h e' (mem_cons_of_mem e mem)
    have first := h e mem_cons_self
    rw [flatMap_cons, foldl_cons, ← later]
    unfold ArgEntry.args ArgEntry.put
    cases hg : e.value with
    | none => rfl
    | some value =>
      have clean := first value (by rw [hg]; rfl)
      simp [parseRawArgs, e.known.1, e.known.2, clean]

variable {e : ArgEntry} {v : String} {m : DaemonOption}

theorem parseRawArgs_rejects {es : List ArgEntry} (mem : e ∈ es)
    (hg : e.value = some v) (hd : startsWithDashes v = true) (rawArgs : RawEntryArgs) :
    ∃ error, parseRawArgs rawArgs (es.flatMap ArgEntry.args) = .error error := by
  induction es generalizing rawArgs with
  | nil => cases mem
  | cons e' es ih =>
    rw [flatMap_cons]
    cases given' : e'.value with
    | none =>
      rcases mem_cons.mp mem with rfl | later
      · rw [hg] at given'
        cases given'
      · simpa [ArgEntry.args, given'] using ih later rawArgs
    | some value =>
      cases dashes' : startsWithDashes value with
      | true =>
        refine ⟨.missingValue (String.ofList (e'.flag.toList.drop 2)), ?_⟩
        simp [ArgEntry.args, given', parseRawArgs, e'.known.1, e'.known.2, dashes']
      | false =>
        rcases mem_cons.mp mem with rfl | later
        · rw [hg] at given'
          cases given'
          rw [hd] at dashes'
          cases dashes'
        · simpa [ArgEntry.args, given', parseRawArgs, e'.known.1, e'.known.2, dashes']
            using ih later _

def DaemonOption.entries (m : DaemonOption) : List ArgEntry :=
  [⟨"--control-endpoint", .controlEndpoint, some m.controlEndpoint, by decide⟩,
    ⟨"--protocol-version", .protocolVersion, some (numberString m.localProtocolVersion), by decide⟩,
    ⟨"--multiplexer-daemon-idle-timeout", .multiplexerDaemonIdleTimeout,
      some (numberString m.multiplexerDaemonIdleTimeout), by decide⟩,
    ⟨"--debug-info", .debugInfo, m.debugInfo.map fun o => stringify o.value, by decide⟩,
    ⟨"--legacy-driver-dir", .legacyDriverDir, m.legacyDriverDir, by decide⟩,
    ⟨"--enable-websocket", .enableWebSocket, m.enableWebSocket.map boolString, by decide⟩,
    ⟨"--websocket-port", .websocketPort, (m.websocketOption.bind (·.port)).map numberString,
      by decide⟩,
    ⟨"--websocket-room-id", .websocketRoomId, m.websocketOption.bind (·.roomId), by decide⟩,
    ⟨"--connection-trace", .connectionTrace, m.connectionTrace.map fun o => stringify o.value,
      by decide⟩, ⟨"--physical-connector-option", .physicalConnectorOption,
      m.physicalConnectorOption.map fun o => stringify o.value, by decide⟩]

theorem push_args (e : ArgEntry) (args : List String) :
    push e.flag e.value args = args ++ e.args := by
  unfold push ArgEntry.args
  cases e.value with
  | none => exact (append_nil args).symm
  | some value => rfl

theorem entryArgs_eq (m : DaemonOption) :
    createDaemonEntryArgs m = m.entries.flatMap ArgEntry.args := by
  have hp : createDaemonEntryArgs m =
      (m.entries.drop 3).foldl (fun args e => push e.flag e.value args)
      ((m.entries.take 3).flatMap ArgEntry.args) := rfl
  have all : ∀ (es : List ArgEntry) (args : List String),
      es.foldl (fun args e => push e.flag e.value args) args = args ++ es.flatMap ArgEntry.args := by
    intro es
    induction es with
    | nil => exact fun args => (append_nil args).symm
    | cons e es ih =>
      intro args
      rw [foldl_cons, push_args, ih, flatMap_cons, append_assoc]
  rw [hp, all, ← flatMap_append, take_append_drop]

def DaemonOption.given (m : DaemonOption) : RawEntryArgs
  | .controlEndpoint => some m.controlEndpoint
  | .protocolVersion => some (numberString m.localProtocolVersion)
  | .multiplexerDaemonIdleTimeout => some (numberString m.multiplexerDaemonIdleTimeout)
  | .debugInfo => m.debugInfo.map fun o => stringify o.value
  | .legacyDriverDir => m.legacyDriverDir
  | .enableWebSocket => m.enableWebSocket.map boolString
  | .websocketPort => (m.websocketOption.bind (·.port)).map numberString
  | .websocketRoomId => m.websocketOption.bind (·.roomId)
  | .connectionTrace => m.connectionTrace.map fun o => stringify o.value
  | .physicalConnectorOption => m.physicalConnectorOption.map fun o => stringify o.value
  | .inherited => none

theorem foldl_put_entries (m : DaemonOption) :
    m.entries.foldl ArgEntry.put (fun _ => none) = m.given := by
  funext key
  simp only [DaemonOption.entries, foldl_cons, foldl_nil, ArgEntry.put_apply]
  cases key <;> simp [DaemonOption.given]

/- No number, truth value or object is written with dashes in front -/

variable (x : Double)

theorem dashes_numberString : startsWithDashes (numberString x) = false := by
  obtain ⟨c, tail, hs, first⟩ := head_magnitudeText x.units.natAbs []
  rw [append_nil] at hs
  have hn : '-' ≠ c := by
    rintro rfl
    exact absurd first (by decide)
  have ht : (numberString x).toList = if x.units < 0 then '-' :: c :: tail else c :: tail := by
    rw [numberString, String.toList_ofList, ← hs]
    rfl
  rw [startsWithDashes, ht]
  split
  · simp [isPrefixOf, hn]
  · simp [isPrefixOf, hn]

theorem dashes_boolString (b : Bool) : startsWithDashes (boolString b) = false := by
  cases b <;> decide

theorem dashes_stringify (o : JsonObject) : startsWithDashes (stringify o.value) = false := by
  obtain ⟨value, ho, hp⟩ := o
  cases value with
  | obj fs =>
    cases fs with
    | nil | cons entry xs => simp [startsWithDashes, stringify, render, isPrefixOf]
  | null | bool _ | num _ | str _ | arr _ => cases ho

/-- No string of the manager is taken for a flag. -/
def DaemonOption.Plain (m : DaemonOption) : Prop :=
  startsWithDashes m.controlEndpoint = false ∧
    (∀ dir ∈ m.legacyDriverDir, startsWithDashes dir = false) ∧
    ∀ room ∈ m.websocketOption.bind (·.roomId), startsWithDashes room = false

theorem DaemonOption.Plain.entries (h : m.Plain) :
    ∀ e ∈ m.entries, ∀ v ∈ e.value, startsWithDashes v = false := by
  obtain ⟨he, dir, hr⟩ := h
  simp only [DaemonOption.entries, forall_mem_cons, not_mem_nil, false_imp_iff, implies_true,
    and_true, mem_def, some.injEq, forall_eq', map_eq_some_iff]
  refine ⟨he, dashes_numberString _, dashes_numberString _, ?_, dir, ?_, ?_, hr, ?_, ?_⟩
  · rintro _ ⟨o, -, rfl⟩
    exact dashes_stringify o
  · rintro _ ⟨b, -, rfl⟩
    exact dashes_boolString b
  · rintro _ ⟨x, -, rfl⟩
    exact dashes_numberString x
  · rintro _ ⟨o, -, rfl⟩
    exact dashes_stringify o
  · rintro _ ⟨o, -, rfl⟩
    exact dashes_stringify o

theorem parseJsonArg_stringify (o : Option JsonObject) :
    parseJsonArg (o.map fun o => stringify o.value) = .ok (o.map (·.value)) := by
  cases o with
  | none => rfl
  | some o => simp [parseJsonArg, parse_stringify, o.plain]

theorem stringToNumber_numberString : stringToNumber (numberString x).toList = some (.finite x) := by
  rw [numberString, String.toList_ofList]
  exact stringToNumber_finiteText x

/-- What the entry makes of a manager's arguments when all of them are read. -/
def DaemonOption.received (m : DaemonOption) : EntryOption where
  controlEndpoint := m.controlEndpoint
  protocolVersion := some (.finite m.localProtocolVersion)
  multiplexerDaemonIdleTimeout := some (.finite m.multiplexerDaemonIdleTimeout)
  debugInfo := m.debugInfo.map (·.value)
  legacyDriverDir := m.legacyDriverDir
  enableWebSocket := m.enableWebSocket
  connectionTrace := m.connectionTrace.map (·.value)
  websocketOption := websocketArgs ((m.websocketOption.bind (·.port)).map numberString)
    (m.websocketOption.bind (·.roomId))
  physicalConnectorOption := m.physicalConnectorOption.map (·.value)

theorem parseEntryOption_of_plain (h : m.Plain) :
    parseEntryOption (createDaemonEntryArgs m) = .ok m.received := by
  have truth : m.enableWebSocket.map ((· == "true") ∘ boolString) = m.enableWebSocket := by
    rcases m.enableWebSocket with _ | _ | _ <;> rfl
  rw [parseEntryOption, entryArgs_eq, parseRawArgs_entries h.entries, foldl_put_entries]
  simp only [bind, Except.bind, getRequiredArg, DaemonOption.given, parseJsonArg_stringify,
    stringToNumber_numberString, Option.map_map, truth]
  rfl

theorem received_agrees (m : DaemonOption) : m.received.Agrees m where
  controlEndpoint := rfl
  protocolVersion := rfl
  idleTimeout := rfl
  debugInfo := rfl
  legacyDriverDir := rfl
  enableWebSocket := rfl
  connectionTrace := rfl
  websocketPort := by
    unfold DaemonOption.received websocketArgs
    cases m.websocketOption.bind (·.port) with
    | none => cases m.websocketOption.bind (·.roomId) <;> simp
    | some x => simp [stringToNumber_numberString]
  websocketRoomId := by
    unfold DaemonOption.received websocketArgs
    cases m.websocketOption.bind (·.roomId) with
    | none => cases m.websocketOption.bind (·.port) <;> simp
    | some room => simp
  physicalConnectorOption := rfl

theorem parseEntryOption_rejects (mem : e ∈ m.entries)
    (hg : e.value = some v) (hd : startsWithDashes v = true) :
    ∃ error, parseEntryOption (createDaemonEntryArgs m) = .error error := by
  obtain ⟨error, hr⟩ := parseRawArgs_rejects mem hg hd fun _ => none
  refine ⟨error, ?_⟩
  rw [parseEntryOption, entryArgs_eq, hr]
  rfl

/-- The daemon gets the manager's options exactly if no endpoint, directory or room starts with
`--`. -/
theorem entry_option_round_trips (m : DaemonOption) :
    (∃ option, parseEntryOption (createDaemonEntryArgs m) = .ok option ∧ option.Agrees m) ↔
      m.Plain := by
  constructor
  · rintro ⟨option, hp, -⟩
    have hc : ∀ e ∈ m.entries, ∀ v ∈ e.value, startsWithDashes v = false := by
      intro e mem v hg
      cases hd : startsWithDashes v with
      | false => rfl
      | true =>
        obtain ⟨error, hr⟩ := parseEntryOption_rejects mem hg hd
        rw [hp] at hr
        cases hr
    simp only [DaemonOption.entries, forall_mem_cons, mem_def, some.injEq, forall_eq'] at hc
    exact ⟨hc.1, hc.2.2.2.2.1, hc.2.2.2.2.2.2.2.1⟩
  · intro hpl
    exact ⟨m.received, parseEntryOption_of_plain hpl, received_agrees m⟩

theorem dashed_room_rejected :
    let m : DaemonOption := {
      controlEndpoint := "/tmp/control.sock"
      localProtocolVersion := JsNumber.smallDouble 1 (by decide)
      multiplexerDaemonIdleTimeout := JsNumber.smallDouble 60000 (by decide)
      debugInfo := none
      legacyDriverDir := none
      enableWebSocket := some true
      websocketOption := some ⟨none, some "--dev"⟩
      connectionTrace := none
      physicalConnectorOption := none }
    parseEntryOption (createDaemonEntryArgs m) = .error (.missingValue "websocket-room-id") ∧
      (EntryError.missingValue "websocket-room-id").message =
        some "Missing value for multiplexer daemon option: websocket-room-id" := by
  intro m
  refine ⟨?_, by decide⟩
  simp +decide [parseEntryOption, createDaemonEntryArgs, m, push, parseRawArgs, optionKeyMap,
    dashes_numberString]
  rfl

end DebugRouter.Manager
