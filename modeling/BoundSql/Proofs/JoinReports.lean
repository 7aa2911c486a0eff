import BoundSql.Proofs.Inquiries
import BoundSql.Config.Load

/-!
# Reports of joins

What a selection reports about its joins, and that nothing else depends on it. Every selection of a
gateway or composite is put together from its columns alone: if they are refused, nothing is
reported; otherwise the joins are, also where the statement is refused for want of columns
(`ReportsJoins`). The settings choose what is reported, but not the statement.

The counts of the joins do not depend on their order (`JoinCounts.of_perm`). A session only starts
with a configuration that passed its check, so its gateways warn about no selection without
one-to-many joins (`Session.Started.positive`).
-/

namespace BoundSql

open Outcome

variable {E : Type}

/-- What settings make a selection with joins report: nothing without joins, or if joins are not
reported; otherwise their counts, and a warning as soon as as many of them are one-to-many as the
settings say. -/
def Settings.joinEvents (settings : Settings) (joins : List Join) : List Event :=
  let oneToMany := joins.countP (·.cardinality = .oneToMany)
  if settings.reportsJoins = false ∨ joins = [] then []
  else if oneToMany < settings.warning then [.joins (.of joins)]
  else [.joins (.of joins), .manyJoins oneToMany]

/-- What is written of an event: its severity, its topic and its sentence. -/
def Event.line (event : Event) : String × String × String :=
  (event.level, event.topic, event.message)

/-- What is written of the joins of a selection: their counts in one sentence, the total first, and
the warning in another. -/
def Settings.joinLines (settings : Settings) (joins : List Join) :
    List (String × String × String) :=
  let inner := joins.countP (·.kind = .inner)
  let left := joins.countP (·.kind = .left)
  let oneToOne := joins.countP (·.cardinality = .oneToOne)
  let oneToMany := joins.countP (·.cardinality = .oneToMany)
  if settings.reportsJoins = false ∨ joins = [] then []
  else
    ("INFO", "sqlfacade::joins", "Statement contains " ++ toString joins.length ++ " joins (" ++
      toString left ++ " left-joins, " ++ toString inner ++ " inner-joins, " ++
      toString oneToMany ++ " one-to-many, " ++ toString oneToOne ++ " one-to-one)") ::
    if oneToMany < settings.warning then []
    else [("WARN", "sqlfacade::joins",
      "Safe amount of one-to-many joins (" ++ toString oneToMany ++ ") exceeded")]

/-- Whoever is warned has a join that may add several rows. -/
def Reply.WarnsOfMany (joins : List Join) (reply : Reply Query) : Prop :=
  ∀ event ∈ reply.events, event.level = "WARN" → ∃ join ∈ joins, join.cardinality = .oneToMany

/-- A selection of `projection` with `joins`, whose reply depends on the settings, reports its joins
as they say, and depends on nothing else but the style in them. -/
structure ReportsJoins (joins : List Join) (projection : Except QueryError Projection)
    (reply : Settings → Reply Query) : Prop where
  /-- Whether joins are reported, and from how many on there is a warning, leaves the statement or
  refusal as it is. -/
  result_eq : ∀ settings settings', settings.style = settings'.style →
    (reply settings).result = (reply settings').result
  /-- Nothing is reported if the columns are refused. -/
  events_refused : ∀ cause, projection = .error cause → ∀ settings, (reply settings).events = []
  /-- Otherwise the joins are reported, also if there are no columns. -/
  events_eq : ∀ columns, projection = .ok columns → ∀ settings,
    (reply settings).events = settings.joinEvents joins

/-- The counts of joins are reported as the settings say. -/
theorem JoinCounts.report_of (settings : Settings) (joins : List Join) :
    (if settings.reportsJoins then (JoinCounts.of joins).report settings.warning else []) =
      settings.joinEvents joins := by
  have vacant : (JoinCounts.of joins).total = 0 ↔ joins = [] := by
    rw [total_of, List.length_eq_zero_iff]
  cases reported : settings.reportsJoins with
  | false => simp [Settings.joinEvents, reported]
  | true =>
    by_cases nothing : joins = []
    · rw [if_pos rfl, report, if_pos (vacant.2 nothing), Settings.joinEvents,
        if_pos (Or.inr nothing)]
    · have present : ¬ (settings.reportsJoins = false ∨ joins = []) := by simp [reported, nothing]
      rw [if_pos rfl, report, if_neg (mt vacant.1 nothing), Settings.joinEvents, if_neg present]
      by_cases few : joins.countP (·.cardinality = .oneToMany) < settings.warning
      · have unwarned : ¬ settings.warning ≤ (of joins).oneToMany := Nat.not_le.2 few
        rw [if_pos few, if_neg unwarned]
      · have warned : settings.warning ≤ (of joins).oneToMany := Nat.not_lt.1 few
        rw [if_neg few, if_pos warned]
        rfl

/-- A selection that is put together from its columns, whatever the settings, reports its joins. -/
theorem ReportsJoins.of_columns {joins : List Join} {projection : Except QueryError Projection}
    {finish : Projection → Select} {reply : Settings → Reply Query}
    (joined : ∀ columns, (finish columns).joins = joins)
    (made : ∀ settings, reply settings = Reply.ofSelect settings (projection.map finish)) :
    ReportsJoins joins projection reply where
  result_eq settings settings' same := by
    rw [made, made]
    cases projection with
    | error cause => rfl
    | ok columns => simp only [Except.map, Reply.ofSelect, Select.reply, same]
  events_refused cause refused settings := by
    rw [made, refused]
    rfl
  events_eq columns resolved settings := by
    rw [made, resolved, ← joined columns, ← JoinCounts.report_of]
    rfl

/-- The selections of a gateway report its joins. -/
theorem EntityGateway.reportsJoins (g : EntityGateway E) (ask : Inquiry) :
    ReportsJoins g.joins (g.projection ask.excluded)
      fun settings => { g with settings }.answer ask := by
  obtain ⟨filter, made⟩ := g.exists_filter ask
  exact .of_columns (fun _ => rfl) made

/-- So do those of a composite that is viewed. -/
theorem CompositeView.reportsJoins (v : CompositeView) (ask : Inquiry) :
    ReportsJoins v.joins (v.projection ask.excluded)
      fun settings => { v with settings }.answer ask := by
  obtain ⟨filter, made⟩ := v.exists_filter ask
  exact .of_columns (fun _ => rfl) made

/-- So do those of a composite of a driving table and members. -/
theorem CompositeGateway.reportsJoins (c : CompositeGateway E) (ask : Inquiry) :
    ReportsJoins c.base.joins (c.projection ask.excluded)
      fun settings => { c with base := { c.base with settings } }.answer ask := by
  have same : (fun settings => { c with base := { c.base with settings } }.answer ask) =
      fun settings => { kind.view c with settings }.answer ask :=
    funext (c.answer_eq_view ask)
  rw [same]
  exact (kind.view c).reportsJoins ask

/-- The counts of joins do not depend on their order. -/
theorem JoinCounts.of_perm {joins joins' : List Join} (same : joins.Perm joins') :
    of joins = of joins' := by
  simp only [of, same.countP_eq]

/-- The counts are written in one sentence, the total first. -/
theorem Event.message_joins (joins : List Join) :
    message (.joins (.of joins)) =
      "Statement contains " ++ toString joins.length ++ " joins (" ++
        toString (joins.countP (·.kind = .left)) ++ " left-joins, " ++
        toString (joins.countP (·.kind = .inner)) ++ " inner-joins, " ++
        toString (joins.countP (·.cardinality = .oneToMany)) ++ " one-to-many, " ++
        toString (joins.countP (·.cardinality = .oneToOne)) ++ " one-to-one)" := by
  unfold message
  simp only
  rw [JoinCounts.total_of]
  unfold JoinCounts.of
  simp only

/-- The joins are reported by these sentences. -/
theorem Settings.lines_joinEvents (settings : Settings) (joins : List Join) :
    (settings.joinEvents joins).map Event.line = settings.joinLines joins := by
  have counted : (Event.joins (.of joins)).line =
      ("INFO", "sqlfacade::joins", (Event.joins (.of joins)).message) := rfl
  rw [Event.message_joins] at counted
  simp only [joinEvents, joinLines]
  by_cases silent : settings.reportsJoins = false ∨ joins = []
  · rw [if_pos silent, if_pos silent, List.map_nil]
  · rw [if_neg silent, if_neg silent]
    by_cases few : joins.countP (·.cardinality = .oneToMany) < settings.warning
    · rw [if_pos few, if_pos few, List.map_singleton, counted]
    · rw [if_neg few, if_neg few, List.map_cons, List.map_singleton, counted]
      rfl

/-- A selection warns only if as many of its joins are one-to-many as the settings say. -/
theorem Settings.warned_joinEvents {settings : Settings} {joins : List Join} {event : Event}
    (reported : event ∈ settings.joinEvents joins) (warning : event.level = "WARN") :
    settings.warning ≤ joins.countP (·.cardinality = .oneToMany) := by
  unfold joinEvents at reported
  simp only at reported
  split at reported
  · cases reported
  · split at reported
    · simp [List.mem_singleton.1 reported, Event.level] at warning
    · next enough => exact Nat.not_lt.1 enough

/-- With a positive threshold, a warning about joins shows that one of them is one-to-many. -/
theorem ReportsJoins.warnsOfMany {joins : List Join} {projection : Except QueryError Projection}
    {reply : Settings → Reply Query} (reports : ReportsJoins joins projection reply)
    (settings : Settings) (positive : 0 < settings.warning) :
    (reply settings).WarnsOfMany joins := by
  intro event reported warning
  cases resolved : projection with
  | error cause =>
    rw [reports.events_refused cause resolved settings] at reported
    cases reported
  | ok columns =>
    rw [reports.events_eq columns resolved settings] at reported
    have enough := Settings.warned_joinEvents reported warning
    obtain ⟨join, member, oneToMany⟩ := List.countP_pos_iff.1 (Nat.lt_of_lt_of_le positive enough)
    exact ⟨join, member, of_decide_eq_true oneToMany⟩

/-- A session that a program works with: one started with a configuration, or one that was
loaded. -/
inductive Session.Started : Session → Prop where
  /-- Started with a configuration. -/
  | start {config : Config} {session : Session} {events : List Event}
    (started : Session.start config = .ok (session, events)) : Session.Started session
  /-- Loaded in a working directory. -/
  | load {directory : Environment.Directory} {process : Environment.Variables} {session : Session}
    {events : List Event} (loaded : Session.load directory process = .ok (session, events)) :
    Session.Started session

/-- The configuration a session starts with passes its check. -/
theorem Session.positive_of_start {config : Config} {session : Session} {events : List Event}
    (started : start config = .ok (session, events)) : 0 < session.settings.warning := by
  unfold start at started
  split at started
  · cases started
  · next passed checked =>
    cases started
    obtain ⟨positive, rfl⟩ := Config.checked_eq_ok_iff.1 checked
    exact positive

/-- The warning threshold of a session is positive. -/
theorem Session.Started.positive {session : Session} (started : session.Started) :
    0 < session.settings.warning := by
  cases started with
  | start started => exact positive_of_start started
  | load loaded =>
    unfold Session.load at loaded
    split at loaded
    · cases loaded
    · exact positive_of_start loaded

namespace EntityGateway

/-- The gateways of a session: opened by it, and changed since. -/
inductive Opened (session : Session) : EntityGateway E → Prop where
  /-- A new gateway by its default alias. -/
  | gateway {definition : TableDefinition E} {g : EntityGateway E}
    (made : session.gateway definition = .ok g) : Opened session g
  /-- A new gateway by an alias that is given. -/
  | gatewayAs {definition : TableDefinition E} {aliasName : String} {g : EntityGateway E}
    (made : session.gatewayAs definition aliasName = .ok g) : Opened session g
  /-- A gateway after one more change. -/
  | change {g next : EntityGateway E} {change : GatewayChange} (before : Opened session g)
    (changed : g.change change = .ok next) : Opened session next

/-- A new gateway has the settings it is made with. -/
theorem settings_makeAs {definition : TableDefinition E} {aliasName : String} {settings : Settings}
    {g : EntityGateway E} (made : makeAs definition aliasName settings = .ok g) :
    g.settings = settings := by
  obtain ⟨table, _, rfl⟩ := map_eq_ok.1 made
  rfl

/-- No change sets other settings. -/
theorem settings_change {g next : EntityGateway E} {gatewayChange : GatewayChange}
    (changed : g.change gatewayChange = .ok next) : next.settings = g.settings := by
  cases gatewayChange with
  | filter step | nest aliasName steps | orderBy column order =>
    obtain ⟨_, _, rfl⟩ := map_eq_ok.1 changed
    rfl
  | join join | clearOrdering | clearFilter | setFilter filter | setOrdering ordering =>
    cases changed
    rfl

/-- A gateway of a session has the settings of the session. -/
theorem Opened.settings_eq {session : Session} {g : EntityGateway E} (opened : g.Opened session) :
    g.settings = session.settings := by
  induction opened with
  | gateway made | gatewayAs made =>
    exact settings_makeAs (mapError_eq_ok.1 made)
  | change _ changed before => exact (settings_change changed).trans before

end EntityGateway

/-- Reports of joins are exact, and no statement depends on them. The reply of every gateway, view
or composite reports its joins as its settings say, once its columns are resolved, in the sentences
of `Settings.joinLines`; whether that is so, and from how many joins on it warns, changes neither a
statement nor a refusal. The counts add up, in any order of the joins, and in a session nobody is
warned of one-to-many joins that are not there. -/
theorem joins_reported (ask : Inquiry) :
    (∀ g : EntityGateway E, ReportsJoins g.joins (g.projection ask.excluded)
      fun settings => { g with settings }.answer ask) ∧
    (∀ v : CompositeView, ReportsJoins v.joins (v.projection ask.excluded)
      fun settings => { v with settings }.answer ask) ∧
    (∀ c : CompositeGateway E, ReportsJoins c.base.joins (c.projection ask.excluded)
      fun settings => { c with base := { c.base with settings } }.answer ask) ∧
    (∀ (settings : Settings) (joins : List Join),
      (settings.joinEvents joins).map Event.line = settings.joinLines joins) ∧
    (∀ joins : List Join,
      (JoinCounts.of joins).inner + (JoinCounts.of joins).left = joins.length ∧
      (JoinCounts.of joins).oneToOne + (JoinCounts.of joins).oneToMany = joins.length ∧
      ∀ joins', joins.Perm joins' → JoinCounts.of joins = JoinCounts.of joins') ∧
    ∀ session : Session, session.Started →
      (∀ g : EntityGateway E, g.Opened session → (g.answer ask).WarnsOfMany g.joins) ∧
      (∀ v : CompositeView, v.settings = session.settings → (v.answer ask).WarnsOfMany v.joins) ∧
      ∀ c : CompositeGateway E, c.base.Opened session → (c.answer ask).WarnsOfMany c.base.joins := by
  have single (g : EntityGateway E) := g.reportsJoins ask
  have viewed (v : CompositeView) := v.reportsJoins ask
  have composite (c : CompositeGateway E) := c.reportsJoins ask
  refine ⟨single, viewed, composite, Settings.lines_joinEvents, fun joins => ?_,
    fun session started => ⟨fun g opened => ?_, fun v same => ?_, fun c opened => ?_⟩⟩
  · exact ⟨JoinCounts.total_of joins, JoinCounts.cardinalities_of joins,
      fun _ => JoinCounts.of_perm⟩
  · exact (single g).warnsOfMany g.settings (opened.settings_eq ▸ started.positive)
  · exact (viewed v).warnsOfMany v.settings (same ▸ started.positive)
  · exact (composite c).warnsOfMany c.base.settings
      (opened.settings_eq ▸ started.positive)

namespace Sample

/-- A session that warns of the first one-to-many join. -/
def watchful : Session := ⟨⟨⟨.question⟩, ⟨1, true⟩⟩, ⟨.question, 1, true⟩⟩

/-- Users with all their profiles, in that session. -/
def profiled : EntityGateway Unit :=
  { keeper users .empty with
    settings := watchful.settings, joins := [{ profiles with cardinality := .oneToMany }] }

/-- It is opened by the session, and given the join. -/
theorem opened_profiled : profiled.Opened watchful := by
  have made : watchful.gateway (keeper users .empty).definition =
      .ok { keeper users .empty with settings := watchful.settings } :=
    mapError_eq_ok.2 (map_eq_ok.2 ⟨users, users.make_names, rfl⟩)
  have joined : EntityGateway.change { keeper users .empty with settings := watchful.settings }
      (.join { profiles with cardinality := .oneToMany }) = .ok profiled := rfl
  exact (EntityGateway.Opened.gateway made).change joined

end Sample

/-- A session with a threshold of one warns of one join with many rows, and there is one. -/
theorem joins_reported_profiled :
    Sample.watchful.Started ∧ Sample.profiled.Opened Sample.watchful ∧
    Event.manyJoins 1 ∈ (Sample.profiled.answer (.all ["id"])).events ∧
    ∃ join ∈ Sample.profiled.joins, join.cardinality = .oneToMany := by
  have checked : Session.start Sample.watchful.config =
      .ok (Sample.watchful, [.configured Sample.watchful.settings]) := rfl
  have started : Sample.watchful.Started := .start checked
  obtain ⟨single, _, _, _, _, warns⟩ := @joins_reported Unit (.all ["id"])
  obtain ⟨opened, _⟩ := warns Sample.watchful started
  have resolved : Sample.profiled.projection ["id"] =
      .ok [⟨Sample.users.aliasName, ⟨"created_at", by decide⟩⟩,
        ⟨Sample.users.aliasName, ⟨"modified_at", by decide⟩⟩] := by decide +kernel
  have reported : Event.manyJoins 1 ∈ (Sample.profiled.answer (.all ["id"])).events := by
    have exactly := (single Sample.profiled).events_eq _ resolved Sample.watchful.settings
    change (Sample.profiled.answer (.all ["id"])).events = _ at exactly
    rw [exactly]
    decide
  exact ⟨started, Sample.opened_profiled, reported,
    opened Sample.profiled Sample.opened_profiled _ reported rfl⟩

end BoundSql
