import TenantConsole.CommandLine.Tool
import TenantConsole.Proofs.WrittenText

/-!
# Settings as they are shown

The tool prints the settings in force and puts a mask in the place of the secret that sessions are
signed with. The passwords of the two connections stand in the same text, and nothing is put in
their place.

* **`Json.SameShape`** relates values that differ in their texts only. Between quotes every
  character is told from every other, and from the end, so two such values are written alike only
  if they are the same (`SameShape.indented_inj`).
* **`masked_ofVariables`**: behind the mask the secret makes no difference.
* **`Variables.SameButSecrets.connection_eq_iff`**: a password makes one as soon as an endpoint is
  named for its service.

`shown_settings_iff` puts the three together.
-/

namespace TenantConsole

/-! ## Texts that tell values apart -/

namespace Json

/-- What stands between quotes is told from what follows. -/
theorem writeText_append_inj {text text' : String} {rest rest' : List Char}
    (h : writeText text ++ rest = writeText text' ++ rest') : text = text' ∧ rest = rest' := by
  have hread (text : String) (rest : List Char) : bytes (writeText text ++ rest)
      = '"' :: (bytes (text.toList.flatMap escape) ++ '"' :: bytes rest) := by
    rw [bytes_append, bytes_writeText]
    simp
  have hbytes := congrArg bytes h
  rw [hread, hread] at hbytes
  have hsame := congrArg readText (List.cons.inj hbytes).2
  rw [readText_written, readText_written] at hsame
  obtain rfl : text = text' := congrArg Prod.fst (Except.ok.inj hsame)
  exact ⟨rfl, List.append_cancel_left h⟩

mutual

/-- Values that differ in texts only. -/
inductive SameShape : Json → Json → Prop where
  | refl (value : Json) : SameShape value value
  | str (text text' : String) : SameShape (.str text) (.str text')
  | obj {members members' : List (String × Json)} (h : SameShapes members members') :
      SameShape (.obj members) (.obj members')

/-- Members of the same names, one by one. -/
inductive SameShapes : List (String × Json) → List (String × Json) → Prop where
  | nil : SameShapes [] []
  | cons (name : String) {value value' : Json} {members members' : List (String × Json)}
      (hvalue : SameShape value value') (hmembers : SameShapes members members') :
      SameShapes ((name, value) :: members) ((name, value') :: members')

end

-- what follows has to be in the statements: behind a value there are the other members
mutual

/-- Texts of one shape are told apart by what they write, whatever is written after them. -/
theorem SameShape.write_append_inj {style : Style} {depth : Nat} {rest rest' : List Char}
    {value value' : Json} (h : SameShape value value')
    (hwritten : write style depth value ++ rest = write style depth value' ++ rest') :
    value = value' ∧ rest = rest' := by
  -- along the shape: texts end at their quotes, objects are told apart member by member
  cases h with
  | refl => exact ⟨rfl, List.append_cancel_left hwritten⟩
  | str text text' =>
    rw [write, write] at hwritten
    obtain ⟨rfl, hrest⟩ := writeText_append_inj hwritten
    exact ⟨rfl, hrest⟩
  | obj hmembers =>
    cases hmembers with
    | nil => exact ⟨rfl, List.append_cancel_left hwritten⟩
    | cons name hvalue hmembers =>
      simp only [write, List.append_assoc, List.cons_append, List.cons.injEq, true_and,
        List.append_cancel_left_eq] at hwritten
      obtain ⟨rfl, hafter⟩ := hvalue.write_append_inj hwritten
      obtain ⟨rfl, hclose⟩ := hmembers.write_append_inj hafter
      exact ⟨rfl, (List.cons.inj (List.append_cancel_left hclose)).2⟩

/-- Members of one shape are told apart by what they write, whatever is written after them. -/
theorem SameShapes.write_append_inj {style : Style} {depth : Nat} {rest rest' : List Char}
    {members members' : List (String × Json)} (h : SameShapes members members')
    (hwritten : writeMembers style depth members ++ rest
      = writeMembers style depth members' ++ rest') : members = members' ∧ rest = rest' := by
  cases h with
  | nil => exact ⟨rfl, hwritten⟩
  | cons name hvalue hmembers =>
    simp only [writeMembers, List.append_assoc, List.cons_append, List.cons.injEq, true_and,
      List.append_cancel_left_eq] at hwritten
    obtain ⟨rfl, hafter⟩ := hvalue.write_append_inj hwritten
    obtain ⟨rfl, hrest⟩ := hmembers.write_append_inj hafter
    exact ⟨rfl, hrest⟩

end

/-- **Values of one shape are written alike only if they are the same.** -/
theorem SameShape.indented_inj {value value' : Json} (h : SameShape value value')
    (hwritten : value.indented = value'.indented) : value = value' := by
  have htext : write .indented 0 value = write .indented 0 value' :=
    String.ofList_injective hwritten
  exact (h.write_append_inj (congrArg (· ++ []) htext)).1

end Json

/-! ## Secrets in the environment -/

namespace Variables

/-- The variables that hold secrets. -/
def secretNames : List String := ["SECURITY_JWT_SECRET", "INFLUXDB_PASSWORD", "KAPACITOR_PASSWORD"]

/-- The services whose connections are named by variables. -/
def services : List String := ["INFLUXDB", "KAPACITOR"]

/-- Two environments set the same variables, and they set them to the same values but for secrets,
which may differ unless one is empty. -/
structure SameButSecrets (one other : Variables) : Prop where
  agree : ∀ name, name ∉ secretNames → one name = other name
  secrets : ∀ name ∈ secretNames, one name = other name
    ∨ ∃ value value', value ≠ "" ∧ value' ≠ ""
      ∧ one name = some value ∧ other name = some value'

/-- The endpoint that the variables name for a service. -/
def endpoint? (lookup : Variables) (service : String) : Option String :=
  (lookup (service ++ "_URL")).bind Text.trimmed?

/-- There is a connection exactly if there is an endpoint. -/
theorem connection_eq_map (lookup : Variables) (service : String) :
    lookup.connection service none = (lookup.endpoint? service).map fun url =>
      { url, username := lookup.text (service ++ "_USERNAME") ""
        password := lookup.text (service ++ "_PASSWORD") "" } := by
  unfold connection endpoint?
  cases (lookup (service ++ "_URL")).bind Text.trimmed? <;> rfl

namespace SameButSecrets

variable {one other : Variables} {name service : String}

/-- Secrets that differ are read as texts that differ. -/
theorem text_eq_iff (h : one.SameButSecrets other) (hname : name ∈ secretNames) :
    one.text name "" = other.text name "" ↔ one name = other name := by
  unfold text
  rcases h.secrets name hname with hsame | ⟨value, value', -, -, hone, hother⟩
  · simp [hsame]
  · simp [hone, hother]

/-- A secret is empty in both environments or in neither. -/
theorem text_empty_iff (h : one.SameButSecrets other) (hname : name ∈ secretNames)
    (preset : String) : one.text name preset = "" ↔ other.text name preset = "" := by
  unfold text
  rcases h.secrets name hname with hsame | ⟨value, value', hvalue, hvalue', hone, hother⟩
  · rw [hsame]
  · simp [hone, hother, hvalue, hvalue']

theorem endpoint_eq (h : one.SameButSecrets other) (hservice : service ∈ services) :
    one.endpoint? service = other.endpoint? service := by
  have hopen : ∀ service ∈ services, service ++ "_URL" ∉ secretNames := by decide
  unfold endpoint?
  rw [h.agree _ (hopen service hservice)]

theorem username_eq (h : one.SameButSecrets other) (hservice : service ∈ services) :
    one.text (service ++ "_USERNAME") "" = other.text (service ++ "_USERNAME") "" := by
  have hopen : ∀ service ∈ services, service ++ "_USERNAME" ∉ secretNames := by decide
  unfold text
  rw [h.agree _ (hopen service hservice)]

/-- **A password makes a difference where an endpoint is named.** -/
theorem connection_eq_iff (h : one.SameButSecrets other) (hservice : service ∈ services) :
    one.connection service none = other.connection service none
      ↔ ((one.endpoint? service).isSome →
        one (service ++ "_PASSWORD") = other (service ++ "_PASSWORD")) := by
  have hsecret : ∀ service ∈ services, service ++ "_PASSWORD" ∈ secretNames := by decide
  rw [connection_eq_map, connection_eq_map, ← h.endpoint_eq hservice, ← h.username_eq hservice]
  cases one.endpoint? service with
  | none => simp
  | some url => simp [h.text_eq_iff (hsecret service hservice)]

end SameButSecrets

end Variables

/-! ## What is shown -/

open CommandLine

theorem Connection.toJson?_injective : Function.Injective Connection.toJson? := by
  intro first second h
  -- no connection is shown as null, any other one as an object of three texts
  cases first with
  | none => cases second with
    | none => rfl
    | some second => cases h
  | some first => cases second with
    | none => cases h
    | some second =>
      simp only [toJson?, toJson, Json.obj.injEq, List.cons.injEq, Prod.mk.injEq,
        Json.str.injEq, true_and, and_true] at h
      obtain ⟨hurl, husername, hpassword⟩ := h
      cases first
      cases second
      simp_all

theorem CommandLine.Invocation.run_config (json : Bool) (settings : Settings) (now : Int) :
    (⟨json, .config⟩ : Invocation).run settings now = .ok (masked settings).toJson.indented :=
  rfl

section Settings

variable {one other : Variables}

/-- No preset has a connection, so the variables alone name them. -/
theorem Settings.catalogs_ofVariables (lookup : Variables) :
    (Settings.ofVariables lookup).catalogs.influxdb = lookup.connection "INFLUXDB" none
      ∧ (Settings.ofVariables lookup).catalogs.kapacitor = lookup.connection "KAPACITOR" none := by
  have hpreset (environment : Environment) : (preset environment).catalogs.influxdb = none
      ∧ (preset environment).catalogs.kapacitor = none := by
    cases environment <;> exact ⟨rfl, rfl⟩
  have hchosen := hpreset (environmentOf lookup)
  exact ⟨congrArg (lookup.connection "INFLUXDB") hchosen.1,
    congrArg (lookup.connection "KAPACITOR") hchosen.2⟩

/-- Environments that differ in secrets choose the same settings, apart from the secrets. -/
theorem ofVariables_eq (h : one.SameButSecrets other) :
    ∃ preset, (Settings.ofVariables one).security.secret = one.text "SECURITY_JWT_SECRET" preset
      ∧ Settings.ofVariables other
        = let settings := Settings.ofVariables one
          { settings with
            security := { settings.security with
              secret := other.text "SECURITY_JWT_SECRET" preset }
            catalogs := { settings.catalogs with
              influxdb := other.connection "INFLUXDB" none
              kapacitor := other.connection "KAPACITOR" none } } := by
  have hopen (name : String) (hname : name ∉ Variables.secretNames) : other name = one name :=
    (h.agree name hname).symm
  -- neither the environment nor any other variable is among the secrets
  have henvironment : Settings.environmentOf other = Settings.environmentOf one := by
    unfold Settings.environmentOf
    rw [hopen "APP_ENV" (by decide)]
  refine ⟨(Settings.preset (Settings.environmentOf one)).security.secret, rfl, ?_⟩
  obtain ⟨hinfluxdb, hkapacitor⟩ := Settings.catalogs_ofVariables other
  rw [← hinfluxdb, ← hkapacitor]
  unfold Settings.ofVariables Settings.withOverrides
  rw [henvironment]
  simp only [Variables.text, Variables.nat, Variables.flag, Variables.optional,
    hopen "DATABASE_URL" (by decide), hopen "DATABASE_NAME" (by decide),
    hopen "DATABASE_MAX_CONNECTIONS" (by decide), hopen "DATABASE_CONNECTION_TIMEOUT" (by decide),
    hopen "API_PORT" (by decide), hopen "API_ENABLE_REQUEST_LOGGING" (by decide),
    hopen "SECURITY_JWT_EXPIRY_HOURS" (by decide), hopen "SECURITY_SUPER_ADMIN_GROUP" (by decide),
    hopen "RESOLVER_CANNED_PATH" (by decide), hopen "RESOLVER_RESOURCES_PATH" (by decide),
    hopen "RESOLVER_PROTOBOARDS_PATH" (by decide), hopen "RESOLVER_TEMPLATES_PATH" (by decide)]

/-- **Behind the mask the secret makes no difference.** All that environments show differently is
what they make of the connections. -/
theorem masked_ofVariables (h : one.SameButSecrets other) :
    masked (.ofVariables other)
      = let shown := masked (.ofVariables one)
        { shown with
          catalogs := { shown.catalogs with
            influxdb := other.connection "INFLUXDB" none
            kapacitor := other.connection "KAPACITOR" none } } := by
  obtain ⟨preset, hsecret, hother⟩ := ofVariables_eq h
  have hlisted : "SECURITY_JWT_SECRET" ∈ Variables.secretNames := by decide
  have hempty := h.text_empty_iff hlisted preset
  rw [hother]
  unfold masked
  by_cases hnone : one.text "SECURITY_JWT_SECRET" preset = ""
  · -- both leave the settings as they are, and both have the empty secret
    rw [if_pos (hempty.1 hnone), if_pos (hsecret.trans hnone), hempty.1 hnone,
      ← hsecret.trans hnone]
  · rw [if_neg (mt hempty.2 hnone), if_neg (fun h => hnone (hsecret.symm.trans h))]

/-- What is shown of settings that differ in their connections tells the connections. -/
theorem connections_of_shown {settings : Settings} {influxdb kapacitor : Option Connection}
    (hinfluxdb : Json.SameShape (Connection.toJson? settings.catalogs.influxdb)
      (Connection.toJson? influxdb))
    (hkapacitor : Json.SameShape (Connection.toJson? settings.catalogs.kapacitor)
      (Connection.toJson? kapacitor))
    (hshown : settings.toJson.indented = (Settings.toJson { settings with
      catalogs := { settings.catalogs with influxdb, kapacitor } }).indented) :
    settings.catalogs.influxdb = influxdb ∧ settings.catalogs.kapacitor = kapacitor := by
  -- the two connections stand beside each other at the end of one part of the settings
  have hsame := Json.SameShape.indented_inj (.obj <|
    .cons _ (.refl _) <| .cons _ (.refl _) <| .cons _ (.refl _) <| .cons _ (.refl _) <|
    .cons "resolver" (.obj <|
      .cons _ (.refl _) <| .cons _ (.refl _) <| .cons _ (.refl _) <| .cons _ (.refl _) <|
      .cons "influxdb" hinfluxdb <| .cons "kapacitor" hkapacitor .nil) .nil) hshown
  simp only [Json.obj.injEq, List.cons.injEq, Prod.mk.injEq, true_and, and_true] at hsame
  exact ⟨Connection.toJson?_injective hsame.1, Connection.toJson?_injective hsame.2⟩

/-- The connections of a service have the same endpoint and user, so they are of one shape. -/
theorem connection_sameShape (h : one.SameButSecrets other) (service : String)
    (hservice : service ∈ Variables.services) :
    Json.SameShape (Connection.toJson? (one.connection service none))
      (Connection.toJson? (other.connection service none)) := by
  rw [Variables.connection_eq_map, Variables.connection_eq_map, ← h.endpoint_eq hservice,
    ← h.username_eq hservice]
  cases one.endpoint? service with
  | none => exact .refl _
  | some url => exact .obj (.cons _ (.refl _) (.cons _ (.refl _) (.cons _ (.str _ _) .nil)))

theorem catalogs_masked (settings : Settings) : (masked settings).catalogs = settings.catalogs := by
  unfold masked
  split <;> rfl

/-- **What is shown tells the connections, and nothing else of what differs.** -/
theorem run_config_eq_iff (h : one.SameButSecrets other) (json : Bool) (now : Int) :
    (⟨json, .config⟩ : Invocation).run (.ofVariables one) now
        = (⟨json, .config⟩ : Invocation).run (.ofVariables other) now
      ↔ one.connection "INFLUXDB" none = other.connection "INFLUXDB" none
        ∧ one.connection "KAPACITOR" none = other.connection "KAPACITOR" none := by
  have hinfluxdb := connection_sameShape h "INFLUXDB" (by decide)
  have hkapacitor := connection_sameShape h "KAPACITOR" (by decide)
  obtain ⟨hinfluxdb', hkapacitor'⟩ := Settings.catalogs_ofVariables one
  rw [← catalogs_masked] at hinfluxdb' hkapacitor'
  rw [Invocation.run_config, Invocation.run_config, masked_ofVariables h]
  -- the connections of the first environment are those of the settings that it is shown by
  rw [← hinfluxdb'] at hinfluxdb ⊢
  rw [← hkapacitor'] at hkapacitor ⊢
  constructor
  · intro hline
    exact connections_of_shown hinfluxdb hkapacitor (Except.ok.inj hline)
  · rintro ⟨hsame, hsame'⟩
    rw [← hsame, ← hsame']

end Settings

/-- **The secret is hidden, and the passwords are shown.** Two environments that differ in secrets
only are shown alike exactly if every service that an endpoint is named for has the same password in
both. -/
theorem shown_settings_iff {one other : Variables} (h : one.SameButSecrets other) (json : Bool)
    (now : Int) :
    (⟨json, .config⟩ : Invocation).run (.ofVariables one) now
        = (⟨json, .config⟩ : Invocation).run (.ofVariables other) now
      ↔ ∀ service ∈ Variables.services, (one.endpoint? service).isSome →
        one (service ++ "_PASSWORD") = other (service ++ "_PASSWORD") := by
  rw [run_config_eq_iff h, h.connection_eq_iff (by decide), h.connection_eq_iff (by decide),
    Variables.services, List.forall_mem_cons, List.forall_mem_singleton]

namespace Variables

/-- A secret to sign with, and a source with a password. -/
def guarded (secret url password : String) : Variables := fun name =>
  if name = "SECURITY_JWT_SECRET" then some secret
  else if name = "INFLUXDB_URL" then some url
  else if name = "INFLUXDB_PASSWORD" then some password
  else none

theorem sameButSecrets_guarded (url : String) {secret secret' password password' : String}
    (hsecret : secret ≠ "" ∧ secret' ≠ "") (hpassword : password ≠ "" ∧ password' ≠ "") :
    (guarded secret url password).SameButSecrets (guarded secret' url password') where
  agree name hname := by
    unfold guarded
    by_cases hurl : name = "INFLUXDB_URL"
    · subst hurl
      rfl
    · simp only [secretNames, List.mem_cons, not_or] at hname
      simp only [if_neg hname.1, if_neg hurl, if_neg hname.2.1]
  secrets := List.forall_mem_cons.2 ⟨.inr ⟨secret, secret', hsecret.1, hsecret.2, rfl, rfl⟩,
    List.forall_mem_cons.2 ⟨.inr ⟨password, password', hpassword.1, hpassword.2, rfl, rfl⟩,
      List.forall_mem_singleton.2 (.inl rfl)⟩⟩

end Variables

/-- Without an endpoint neither the secret nor the password is seen. -/
theorem shown_settings_iff_blank :
    (Variables.guarded "s3cret" " " "hunter2").SameButSecrets (.guarded "other" " " "letmein")
      ∧ (⟨false, .config⟩ : Invocation).run (.ofVariables (.guarded "s3cret" " " "hunter2")) 0
        = (⟨false, .config⟩ : Invocation).run (.ofVariables (.guarded "other" " " "letmein"))
          0 := by
  have hsame : (Variables.guarded "s3cret" " " "hunter2").SameButSecrets
      (.guarded "other" " " "letmein") :=
    Variables.sameButSecrets_guarded " " (by decide) (by decide)
  refine ⟨hsame, (shown_settings_iff hsame false 0).2 ?_⟩
  have hnone : ∀ service ∈ Variables.services,
      (Variables.guarded "s3cret" " " "hunter2").endpoint? service = none := by decide
  intro service hservice hsome
  rw [hnone service hservice] at hsome
  cases hsome

/-- **A password is shown.** Two environments differ in the password of a source, and what the tool
prints tells them apart. -/
theorem password_shown :
    (Variables.guarded "s3cret" "http://influx:8086" "hunter2").SameButSecrets
        (.guarded "s3cret" "http://influx:8086" "letmein")
      ∧ (⟨false, .config⟩ : Invocation).run
          (.ofVariables (.guarded "s3cret" "http://influx:8086" "hunter2")) 0
        ≠ (⟨false, .config⟩ : Invocation).run
          (.ofVariables (.guarded "s3cret" "http://influx:8086" "letmein")) 0 := by
  have hsame : (Variables.guarded "s3cret" "http://influx:8086" "hunter2").SameButSecrets
      (.guarded "s3cret" "http://influx:8086" "letmein") :=
    Variables.sameButSecrets_guarded "http://influx:8086" (by decide) (by decide)
  refine ⟨hsame, fun hline => ?_⟩
  have hpasswords := congrArg (Option.map Connection.password)
    ((run_config_eq_iff hsame false 0).1 hline).1
  exact absurd hpasswords (by decide)

end TenantConsole
