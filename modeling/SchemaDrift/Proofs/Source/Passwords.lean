import Mathlib.Data.List.Forall2
import SchemaDrift.Proofs.Comparison
import SchemaDrift.Proofs.Source.Description

namespace SchemaDrift

/-- Passwords that a host takes for each other: both are there, no program behaves differently with the one than with
the other in its environment, and the server answers them alike. -/
structure Host.Confuses (h : Host) (p q : Text) : Prop where
  left : p ≠ []
  right : q ≠ []
  execute : ∀ files asked program arguments,
    h.execute files asked ⟨program, arguments, [("MYSQL_PWD", p)]⟩ =
      h.execute files asked ⟨program, arguments, [("MYSQL_PWD", q)]⟩
  serve : ∀ asked options, h.serve asked (.connect ⟨options, some p⟩) = h.serve asked (.connect ⟨options, some q⟩)

/-- Connections that differ in their passwords at most, which are of these pairs. -/
inductive Connection.Alike (R : Text → Text → Prop) : Connection → Connection → Prop where
  | same (c : Connection) : Alike R c c
  | password (c : Connection) {p q : Text} (h : R p q) : Alike R { c with password := p } { c with password := q }

/-- Dumpers that differ in the password of their server at most. -/
structure Dumper.Alike (R : Text → Text → Prop) (d d' : Dumper) : Prop where
  connection : Connection.Alike R d.connection d'.connection
  program : d.program = d'.program

/-- Settings of a server that differ in the password at most. -/
inductive ServerSettings.Alike (R : Text → Text → Prop) : ServerSettings → ServerSettings → Prop where
  | same (s : ServerSettings) : Alike R s s
  | password (s : ServerSettings) {p q : Text} (h : R p q) : Alike R { s with password := p } { s with password := q }

/-- Configurations that differ in the password of their server at most. -/
structure Config.Alike (R : Text → Text → Prop) (c c' : Config) : Prop where
  server : c.server.Alike R c'.server
  dump : c.dump = c'.dump
  log : c.log = c'.log

/-- Sources that differ in the password of a remote server at most. -/
inductive Source.Alike (R : Text → Text → Prop) : Source → Source → Prop where
  | same (source : Source) : Alike R source source
  | remote (database : Text) {c c' : Connection} (h : Connection.Alike R c c') :
    Alike R (.remote database c) (.remote database c')

/-- Items that differ in the value of a password at most. -/
inductive Source.ItemsAlike (R : Text → Text → Prop) : OptionItem RemoteOption → OptionItem RemoteOption → Prop where
  | same (i : OptionItem RemoteOption) : ItemsAlike R i i
  | password {p q : Text} (h : R p q) : ItemsAlike R (.option .password p) (.option .password q)

/-- What the words of a description say. -/
def Source.items (t : Text) : List (OptionItem RemoteOption) :=
  OptionItem.ofArguments remoteRules (descriptionWords t)

/-- Arguments that differ in passwords at most: they are one argument, or both are descriptions, of a database or
malformed, that say the same but for the value of a password, and neither is ever a path on the host. -/
inductive Source.ArgumentsAlike (R : Text → Text → Prop) (h : Host) : Text → Text → Prop where
  | same (t : Text) : ArgumentsAlike R h t t
  | described {t t' : Text} (hspace : ' ' ∈ t) (hspace' : ' ' ∈ t') (hnever : h.NeverHas t) (hnever' : h.NeverHas t')
    (hitems : List.Forall₂ (ItemsAlike R) (items t) (items t')) : ArgumentsAlike R h t t'

variable {R : Text → Text → Prop} {c c' : Connection} {d d' : Dumper}

section Lasting

theorem Host.Confuses.of_eq {h : Host} {p q : Text} (hh : h.Confuses p q) (files : FileTree) (journal : Option Journal)
    (asked : List Exchange) : Confuses { h with files, journal, asked } p q := ⟨hh.left, hh.right, hh.execute, hh.serve⟩

/-- A host goes on to take those passwords for each other. -/
theorem Host.lasting_confuses (p q : Text) : Lasting fun h => h.Confuses p q where
  note := fun {h} e hh => by
    obtain ⟨files, journal, hnote⟩ := h.exists_note_eq e
    rw [hnote]
    exact hh.of_eq files journal h.asked
  run := fun {h} _ _ hh _ => hh.of_eq _ h.journal h.asked
  ask := fun {h} _ hh => hh.of_eq h.files h.journal _

/-- Passwords that a host takes for each other at first it takes for each other for good. -/
theorem Host.lasting_confusion (host : Host) : Lasting fun h => ∀ p q, host.Confuses p q → h.Confuses p q where
  note := fun e hh p q hR => (lasting_confuses p q).note e (hh p q hR)
  run := fun hh hrun p q hR => (lasting_confuses p q).run (hh p q hR) hrun
  ask := fun call hh p q hR => (lasting_confuses p q).ask call (hh p q hR)

theorem Source.lasting_argumentsAlike (R : Text → Text → Prop) (t t' : Text) :
    Host.Lasting fun h => ArgumentsAlike R h t t' where
  note := fun e hh => by
    cases hh with
    | same => exact .same t
    | described hspace hspace' hnever hnever' hitems =>
      exact .described hspace hspace' ((Host.lasting_neverHas t).note e hnever)
        ((Host.lasting_neverHas t').note e hnever') hitems
  run := fun hh hrun => by
    cases hh with
    | same => exact .same t
    | described hspace hspace' hnever hnever' hitems =>
      exact .described hspace hspace' ((Host.lasting_neverHas t).run hnever hrun)
        ((Host.lasting_neverHas t').run hnever' hrun) hitems
  ask := fun call hh => by
    cases hh with
    | same => exact .same t
    | described hspace hspace' hnever hnever' hitems =>
      exact .described hspace hspace' ((Host.lasting_neverHas t).ask call hnever)
        ((Host.lasting_neverHas t').ask call hnever') hitems

end Lasting

section Descriptions

namespace Source

/-- What two descriptions have said so far differs in the password at most. -/
structure Described.Alike (R : Text → Text → Prop) (e e' : Described) : Prop where
  given : e.given = e'.given
  database : e.database = e'.database
  connection : Connection.Alike R e.connection e'.connection

variable {e e' : Described} {i i' : OptionItem RemoteOption} {is is' : List (OptionItem RemoteOption)}
  {t t' : Text} {h : Host}

/-- Descriptions are alike in which one password stands in the place of the other, spelled in the same way, with the
same words in front of them that say something, and the same words behind them, whatever these are. -/
theorem forall₂_items {p q : Text} {spelling : OptionItem.Spelling} {front behind : List Text} (hR : R p q)
    (hp : spelling.Fits p) (hq : spelling.Fits q) (hfront : OptionItem.Spells remoteRules front is)
    (ht : descriptionWords t = front ++ (spelling.words 'p' "password" p ++ behind))
    (ht' : descriptionWords t' = front ++ (spelling.words 'p' "password" q ++ behind)) :
    List.Forall₂ (ItemsAlike R) (items t) (items t') := by
  have hspells {v : Text} (hv : spelling.Fits v) :
      OptionItem.Spells remoteRules (spelling.words 'p' "password" v) [.option .password v] :=
    RemoteOption.spells .password hv
  rw [items, items, ht, ht', hfront, hfront, hspells hp, hspells hq]
  have hsame (is : List (OptionItem RemoteOption)) : List.Forall₂ (ItemsAlike R) is is :=
    List.forall₂_same.mpr fun i _ => .same i
  exact List.rel_append (hsame is) (.cons (.password hR) (hsame _))

theorem Described.alike_refl (e : Described) : e.Alike R e := ⟨rfl, rfl, .same _⟩

/-- Items that differ in a password at most are taken or refused alike. -/
theorem Described.Alike.add (he : e.Alike R e') (hi : ItemsAlike R i i') :
    Option.Rel (Described.Alike R) (e.add i) (e'.add i') := by
  obtain ⟨given, database, connection⟩ := e
  obtain ⟨given', database', connection'⟩ := e'
  obtain ⟨hgiven, hdatabase, hconnection⟩ := he
  dsimp only at hgiven hdatabase hconnection
  subst hgiven hdatabase
  cases hi with
  | password hR =>
    by_cases hkey : RemoteOption.password ∈ given
    · simp only [Described.add, hkey, if_true]
      exact .none
    · simp only [Described.add, hkey, if_false]
      cases hconnection with
      | same => exact .some ⟨rfl, rfl, .password _ hR⟩
      | password c => exact .some ⟨rfl, rfl, .password c hR⟩
  | same i =>
    cases i with
    | positional t =>
      by_cases hthere : database.isSome
      · simp only [Described.add, hthere, if_true]
        exact .none
      · simp only [Described.add, hthere]
        exact .some ⟨rfl, rfl, hconnection⟩
    | flag key => exact .none
    | fault => exact .none
    | option key value =>
      by_cases hkey : key ∈ given
      · simp only [Described.add, hkey, if_true]
        exact .none
      · cases key with
        | host =>
          simp only [Described.add, hkey, if_false]
          cases hconnection with
          | same => exact .some (Described.alike_refl _)
          | password c hR => exact .some ⟨rfl, rfl, .password { c with host := value } hR⟩
        | user =>
          simp only [Described.add, hkey, if_false]
          cases hconnection with
          | same => exact .some (Described.alike_refl _)
          | password c hR => exact .some ⟨rfl, rfl, .password { c with user := value } hR⟩
        | password =>
          simp only [Described.add, hkey, if_false]
          cases hconnection with
          | same => exact .some (Described.alike_refl _)
          | password c hR => exact .some ⟨rfl, rfl, .same _⟩
        | port =>
          simp only [Described.add, hkey, if_false]
          cases optionPort? value with
          | none => exact .none
          | some p =>
            cases hconnection with
            | same => exact .some (Described.alike_refl _)
            | password c hR => exact .some ⟨rfl, rfl, .password { c with port := p } hR⟩

theorem Described.Alike.foldlM_add (hitems : List.Forall₂ (ItemsAlike R) is is') (he : e.Alike R e') :
    Option.Rel (Described.Alike R) (is.foldlM Described.add e) (is'.foldlM Described.add e') := by
  induction hitems generalizing e e' with
  | nil => exact .some he
  | @cons i i' is is' hi _ ih =>
    have hadd := he.add hi
    rw [List.foldlM_cons, List.foldlM_cons]
    generalize e.add i = x at hadd ⊢
    generalize e'.add i' = x' at hadd ⊢
    cases hadd with
    | none => exact .none
    | some hd => exact ih hd

/-- Descriptions that differ in passwords at most describe alike, or both describe nothing. -/
theorem describedRemote?_alike (hitems : List.Forall₂ (ItemsAlike R) (items t) (items t')) :
    Option.Rel (Source.Alike R) (describedRemote? t) (describedRemote? t') := by
  have hrun := (Described.alike_refl (R := R) {}).foldlM_add hitems
  -- both readings start with the run of the items, so its two results decide both
  rw [describedRemote?, describedRemote?]
  change Option.Rel _ (((items t).foldlM Described.add {}).bind _) (((items t').foldlM Described.add {}).bind _)
  generalize (items t).foldlM Described.add {} = x at hrun ⊢
  generalize (items t').foldlM Described.add {} = x' at hrun ⊢
  cases hrun with
  | none => exact .none
  | @some d d' hd =>
    obtain ⟨-, hdatabase, hconnection⟩ := hd
    simp only [Option.bind_some, ← hdatabase]
    cases d.database with
    | none => exact .none
    | some database =>
      by_cases hempty : database = []
      · simp only [Option.bind_eq_bind, Option.bind_some, if_pos hempty]
        exact .none
      · simp only [Option.bind_eq_bind, Option.bind_some, if_neg hempty]
        exact .some (.remote database hconnection)

/-- A description that is never a path names what it describes. -/
theorem ofArgument_of_neverHas (hspace : ' ' ∈ t) (hnever : h.NeverHas t) :
    ofArgument h.files t = (describedRemote? t).elim (.error (.argument t)) .ok := by
  rw [ofArgument, hnever.absent]
  refine (if_neg Bool.false_ne_true).trans ((if_pos (List.contains_iff_mem.mpr hspace)).trans ?_)
  cases describedRemote? t <;> rfl

/-- Arguments that differ in passwords at most name sources alike, or neither names one. -/
theorem ofArgument_cases (ha : ArgumentsAlike R h t t') :
    (∃ s s', ofArgument h.files t = .ok s ∧ ofArgument h.files t' = .ok s' ∧ Source.Alike R s s') ∨
      (ofArgument h.files t = .error (.argument t) ∧ ofArgument h.files t' = .error (.argument t')) := by
  cases ha with
  | same =>
    cases hsource : ofArgument h.files t with
    | ok s => exact .inl ⟨s, s, rfl, rfl, .same s⟩
    | error f =>
      obtain rfl := eq_argument_of_ofArgument hsource
      exact .inr ⟨rfl, rfl⟩
  | described hspace hspace' hnever hnever' hitems =>
    rw [ofArgument_of_neverHas hspace hnever, ofArgument_of_neverHas hspace' hnever']
    have hdescribed := describedRemote?_alike hitems
    generalize describedRemote? t = x at hdescribed ⊢
    generalize describedRemote? t' = x' at hdescribed ⊢
    cases hdescribed with
    | none => exact .inr ⟨rfl, rfl⟩
    | some hs => exact .inl ⟨_, _, rfl, rfl, hs⟩

/-- The failure of a description without a database shows the description with its password. -/
theorem message_of_passwords :
    let host : Host := { files := FileTree.empty [("w" : Text)], execute := fun _ _ _ => .error .noSuchFile }
    let t : Text := "-uroot -psecret"
    let t' : Text := "-uroot -phush"
    ArgumentsAlike host.Confuses host t t' ∧
      ∃ f f', ofArgument host.files t = .error f ∧ ofArgument host.files t' = .error f' ∧ f.message ≠ f'.message := by
  intro host t t'
  have hnever {path : Text} (hplain : FileTree.IsPlain path)
      (hnone : FileTree.entry? host.files (host.files.home ++ [path]) = none) : host.NeverHas path :=
    Host.neverHas_of_isPlain hplain (by decide) hnone fun _ _ _ _ hc => by cases hc
  have ht : host.NeverHas t := hnever (by decide +kernel) (by decide +kernel)
  have ht' : host.NeverHas t' := hnever (by decide +kernel) (by decide +kernel)
  have hR : host.Confuses "secret" "hush" := ⟨by decide, by decide, fun _ _ _ _ => rfl, fun _ _ => rfl⟩
  have hfront : OptionItem.Spells remoteRules [("-uroot" : Text)] [.option .user "root"] :=
    @RemoteOption.spells .user .glued "root" (by decide)
  have hitems : List.Forall₂ (ItemsAlike host.Confuses) (items t) (items t') :=
    @forall₂_items _ _ _ _ _ _ .glued _ [] hR (by decide) (by decide) hfront (by decide +kernel) (by decide +kernel)
  have hnone : describedRemote? t = none := by decide +kernel
  have hnone' : describedRemote? t' = none := by decide +kernel
  refine ⟨.described (by decide) (by decide) ht ht' hitems, .argument t, .argument t', ?_, ?_, by decide +kernel⟩
  · rw [ofArgument_of_neverHas (by decide) ht, hnone]
    rfl
  · rw [ofArgument_of_neverHas (by decide) ht', hnone']
    rfl

end Source
end Descriptions

section Fetching

/-- Two computations do the same on every host of that kind. -/
def Logged.Agree {α : Type} (P : Host → Prop) (x y : Logged α) : Prop := ∀ s, P s.host → x.run s = y.run s

variable {α β : Type} {P : Host → Prop} {x y : Logged α} {f g : α → Logged β}

theorem ServerSettings.Alike.connection {s s' : ServerSettings} (h : s.Alike R s') :
    Connection.Alike R s.connection s'.connection := by
  cases h with
  | same => exact .same _
  | password s hR =>
    rw [connection_eq, connection_eq]
    exact .password { host := s.host, port := s.port, user := s.user, properties := s.properties } hR

theorem Logged.agree_refl (P : Host → Prop) (x : Logged α) : x.Agree P x := fun _ _ => rfl

theorem Logged.Agree.bind (h : x.Agree P y) (hx : x.Keeps P) (hf : ∀ a, (f a).Agree P (g a)) :
    (x >>= f).Agree P (y >>= g) := by
  intro s hs
  have hkept := hx s hs
  rw [run_bind, run_bind, ← h s hs]
  cases hrun : x.run s with
  | error e t => rfl
  | ok a t =>
    rw [hrun] at hkept
    exact hf a t hkept

/-- What goes on in the same way behind a computation does so wherever that one stops. -/
theorem Logged.Agree.bind_right (h : x.Agree P y) (f : α → Logged β) : (x >>= f).Agree P (y >>= f) := by
  intro s hs
  rw [run_bind, run_bind, h s hs]

theorem Logged.Agree.attempt (h : x.Agree P y) : (attempt x).Agree P (attempt y) := by
  intro s hs
  rw [run_attempt, run_attempt, h s hs]

/-- The password decides nothing about the run of a program but its environment. -/
theorem Dumper.invocation_of_alike (hd : d.Alike R d') (hc : Connection.Alike R c c') (database : Text) :
    d'.invocation database c' = { d.invocation database c with environment := passwordVariable c' } := by
  have harguments : c.dumpArguments database = c'.dumpArguments database := by cases hc <;> rfl
  rw [invocation, invocation, hd.program, harguments]

/-- The environment hands a password over and nothing else. -/
theorem Dumper.eq_of_mem_environment {v : Text × Text} {database : Text}
    (hv : v ∈ (d.invocation database c).environment) : v = (("MYSQL_PWD" : Text), c.password) := by
  change v ∈ passwordVariable c at hv
  rw [passwordVariable] at hv
  split at hv
  · cases hv
  · exact List.mem_singleton.mp hv

/-- A program does the same with passwords that the host takes for each other. -/
theorem Dumper.agree_execute (hP : ∀ h, P h → ∀ p q, R p q → h.Confuses p q) (hd : d.Alike R d')
    (hc : Connection.Alike R c c') (database : Text) :
    (Logged.execute (d.invocation database c)).Agree P (Logged.execute (d'.invocation database c')) := by
  intro s hs
  have hrun : s.host.run (d.invocation database c) = s.host.run (d'.invocation database c') := by
    rw [invocation_of_alike hd hc database]
    cases hc with
    | same => rfl
    | @password c p q hR =>
      obtain ⟨hp, hq, hsame, -⟩ := hP s.host hs p q hR
      have hpassword : passwordVariable { c with password := p } = [(("MYSQL_PWD" : Text), p)] := if_neg hp
      have hpassword' : passwordVariable { c with password := q } = [(("MYSQL_PWD" : Text), q)] := if_neg hq
      rw [Host.run, Host.run, invocation, hpassword, hpassword']
      dsimp only
      rw [hsame]
  rw [Logged.run_execute, Logged.run_execute, hrun]

theorem Dumper.commandLine_of_alike (hd : d.Alike R d') (hc : Connection.Alike R c c') (database : Text) :
    commandLine (d.invocation database c) = commandLine (d'.invocation database c') := by
  rw [invocation_of_alike hd hc database]
  rfl

theorem Dumper.agree_dumpDatabase (hP : ∀ h, P h → ∀ p q, R p q → h.Confuses p q) (hlasting : Host.Lasting P)
    (hd : d.Alike R d') (hc : Connection.Alike R c c') (database : Text) :
    (d.dumpDatabase database c).Agree P (d'.dumpDatabase database c') := by
  rw [dumpDatabase, dumpDatabase]
  simp only [commandLine_of_alike hd hc database]
  exact (Logged.agree_refl P _).bind (Logged.keeps_log hlasting _) fun _ =>
    (agree_execute hP hd hc database).bind_right _

theorem Connection.url_of_alike (hc : Connection.Alike R c c') : c.url = c'.url := by
  cases hc <;> rfl

theorem Connection.connectOptions_of_alike (hc : Connection.Alike R c c') : c.connectOptions = c'.connectOptions := by
  have huser : c.user = c'.user := by cases hc <;> rfl
  unfold connectOptions
  rw [url_of_alike hc, huser]

/-- A password that is there is the one to log in with. -/
theorem Connection.login_of_password {p : Text} (hp : p ≠ []) :
    login { c with password := p } =
      (connectOptions { c with password := p }).map fun options => { options, password := some p } := by
  rw [login, loginPassword, if_neg hp]

/-- The server lets both in, or neither. -/
theorem Dumper.agree_connect (hP : ∀ h, P h → ∀ p q, R p q → h.Confuses p q) (hd : d.Alike R d')
    (database : Option Text) : (d.connect database).Agree P (d'.connect database) := by
  obtain ⟨connection, program⟩ := d
  obtain ⟨connection', program'⟩ := d'
  obtain ⟨hconnection, -⟩ := hd
  rw [connect, connect]
  cases hconnection with
  | same => exact Logged.agree_refl P _
  | @password c p q hR =>
    intro s hs
    obtain ⟨hp, hq, -, hserve⟩ := hP s.host hs p q hR
    rw [Connection.login_of_password hp, Connection.login_of_password hq,
      Connection.connectOptions_of_alike (.password c hR)]
    cases Connection.connectOptions { c with password := q } with
    | error f => rfl
    | ok options =>
      let asking : ConnectOptions := { options with database := database <|> options.database }
      have hanswer : s.host.answer (.connect ⟨asking, some p⟩) = s.host.answer (.connect ⟨asking, some q⟩) := hserve _ _
      have hask : s.host.ask (.connect ⟨asking, some p⟩) = s.host.ask (.connect ⟨asking, some q⟩) := by
        rw [Host.ask, Host.ask, hanswer]
        rfl
      change (Logged.connect ⟨asking, some p⟩).run s = (Logged.connect ⟨asking, some q⟩).run s
      rw [Logged.run_connect, Logged.run_connect, hanswer, hask]

theorem Dumper.agree_loadAndDump (hP : ∀ h, P h → ∀ p q, R p q → h.Confuses p q) (hlasting : Host.Lasting P)
    (hd : d.Alike R d') (database sql : Text) : (d.loadAndDump database sql).Agree P (d'.loadAndDump database sql) := by
  refine (agree_connect hP hd database).bind (d.keeps_connect hlasting database) fun connection => ?_
  refine (Logged.agree_refl P _).bind (Logged.keeps_demand hlasting _) fun _ => ?_
  refine (Logged.agree_refl P _).bind (Logged.keeps_demand hlasting _) fun _ => ?_
  exact agree_dumpDatabase hP hlasting hd hd.connection database

theorem Dumper.agree_dumpSql (hP : ∀ h, P h → ∀ p q, R p q → h.Confuses p q) (hlasting : Host.Lasting P)
    (hd : d.Alike R d') (sql : Text) : (d.dumpSql sql).Agree P (d'.dumpSql sql) := by
  refine (Logged.agree_refl P _).bind (Logged.keeps_fresh P) fun fresh => ?_
  refine (agree_connect hP hd none).bind (d.keeps_connect hlasting none) fun connection => ?_
  refine (Logged.agree_refl P _).bind (Logged.keeps_log hlasting _) fun _ => ?_
  refine (Logged.agree_refl P _).bind (Logged.keeps_demand hlasting _) fun _ => ?_
  exact (agree_loadAndDump hP hlasting hd _ sql).attempt.bind_right _

theorem Dumper.agree_dumpFile (hP : ∀ h, P h → ∀ p q, R p q → h.Confuses p q) (hlasting : Host.Lasting P)
    (hd : d.Alike R d') (path : Text) : (d.dumpFile path).Agree P (d'.dumpFile path) :=
  (Logged.agree_refl P _).bind (Logged.keeps_readText P path) fun sql => agree_dumpSql hP hlasting hd sql

theorem Dumper.agree_dumpRemote (hP : ∀ h, P h → ∀ p q, R p q → h.Confuses p q) (hlasting : Host.Lasting P)
    (hd : d.Alike R d') (hc : Connection.Alike R c c') (database : Text) :
    (d.dumpRemote database c).Agree P (d'.dumpRemote database c') :=
  (agree_dumpDatabase hP hlasting hd hc database).bind (d.keeps_dumpDatabase hlasting database c) fun schema =>
    agree_dumpSql hP hlasting hd schema

theorem Source.Alike.agree_fetch (hP : ∀ h, P h → ∀ p q, R p q → h.Confuses p q) (hlasting : Host.Lasting P)
    (hd : d.Alike R d') {s s' : Source} (hs : s.Alike R s') (raw : Bool) :
    (s.fetch d raw).Agree P (s'.fetch d' raw) := by
  have hremote (database : Text) {c c' : Connection} (hc : Connection.Alike R c c') :
      ((Source.remote database c).fetch d raw).Agree P ((Source.remote database c').fetch d' raw) := by
    rw [fetch, fetch, Connection.url_of_alike hc]
    refine (Logged.agree_refl P _).bind (Logged.keeps_log hlasting _) fun _ => ?_
    exact Dumper.agree_dumpRemote hP hlasting hd hc database
  cases hs with
  | remote database hc => exact hremote database hc
  | same s =>
    cases s with
    | remote database c => exact hremote database (.same c)
    | file path =>
      cases raw with
      | true =>
        rw [fetch, fetch]
        simp only [if_true]
        exact Logged.agree_refl P _
      | false =>
        rw [fetch, fetch]
        simp only [Bool.false_eq_true, if_false]
        refine (Logged.agree_refl P _).bind (Logged.keeps_log hlasting _) fun _ => ?_
        exact Dumper.agree_dumpFile hP hlasting hd path
    | configured database =>
      rw [fetch, fetch]
      refine (Logged.agree_refl P _).bind (Logged.keeps_log hlasting _) fun _ => ?_
      exact Dumper.agree_dumpDatabase hP hlasting hd hd.connection database

/-- Schemas are fetched and read alike from arguments that differ in passwords at most, where the same is shown. -/
theorem Config.Alike.agree_fetchShowing {k k' : Config} {t t' : Text} (hk : k.Alike R k')
    (hP : ∀ h, P h → ∀ p q, R p q → h.Confuses p q) (hlasting : Host.Lasting P)
    (ht : ∀ h, P h → Source.ArgumentsAlike R h t t') (shown : Text) :
    (k.fetchShowing shown t).Agree P (k'.fetchShowing shown t') := by
  have hdumper : k.dumper.Alike R k'.dumper := ⟨hk.server.connection, congrArg DumpSettings.program hk.dump⟩
  intro s hs
  rw [fetchShowing, fetchShowing, Logged.run_bind, Logged.run_bind, Logged.run_files]
  rcases Source.ofArgument_cases (ht s.host hs) with ⟨source, source', hsource, hsource', halike⟩ | ⟨hfail, hfail'⟩
  · simp only [hsource, hsource', hk.dump]
    exact (halike.agree_fetch hP hlasting hdumper k'.dump.raw).bind_right _ s hs
  · simp only [hfail, hfail', Except.mapError, Logged.run_bind, Logged.run_ofExcept_error]

end Fetching

end SchemaDrift
