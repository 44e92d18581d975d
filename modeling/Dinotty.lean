import Dinotty.Agent.Ansi
import Dinotty.Agent.Execution
import Dinotty.Attention.Dedup
import Dinotty.Attention.Delivery
import Dinotty.Attention.Receipts
import Dinotty.Auth.Idle
import Dinotty.Auth.Integrity
import Dinotty.Auth.Rotation
import Dinotty.Auth.TokenFile
import Dinotty.Auth.VerificationCode
import Dinotty.Client.Coalesce
import Dinotty.Client.CsvPreview
import Dinotty.Client.EditorPane
import Dinotty.Client.Resize
import Dinotty.Client.SystemKeyboard
import Dinotty.Client.Textarea
import Dinotty.Events.Bus
import Dinotty.Events.FileWatcher
import Dinotty.History.Store
import Dinotty.Plugin.Reserved
import Dinotty.Plugin.Spawn
import Dinotty.Plugin.Subscriptions
import Dinotty.Proxy.Outward
import Dinotty.Proxy.RelayGate
import Dinotty.Screen.Continuation
import Dinotty.Screen.History
import Dinotty.Screen.Margins
import Dinotty.Session.Boundary
import Dinotty.Session.Geometry
import Dinotty.Session.Insertion
import Dinotty.Session.PaneClose
import Dinotty.Session.PidLedger
import Dinotty.Session.Pruning
import Dinotty.Session.Reaper
import Dinotty.Session.Snapshot
import Dinotty.Session.Transaction
import Dinotty.Settings.Client
import Dinotty.Settings.Legacy
import Dinotty.Settings.Locales
import Dinotty.Settings.Locks
import Dinotty.Settings.Roster
import Dinotty.Ssh.AuthPrompts
import Dinotty.Ssh.HostKey
import Dinotty.Sync.Convergence
import Dinotty.Sync.Window
import Dinotty.Tabs.ActivePanes
import Dinotty.Tabs.TemplateStore
import Dinotty.Tabs.Templates
import Dinotty.Tabs.Updates
import Dinotty.Update.Assets
import Dinotty.Workspace.Confinement
import Dinotty.Workspace.Git
import Dinotty.Workspace.Mirror
import Dinotty.Workspace.MissionControl
import Dinotty.Workspace.RemoteRequests
import Dinotty.Workspace.Uploads
