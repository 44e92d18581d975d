/-
This file is the routes of the server and of the embedded server of the desktop
application, each handler with the methods it answers.
-/

import Dinotty.Foundation.Pattern

namespace Dinotty.Auth

open List

/-- The handlers that routes name. The desktop application has its own copies of some. -/
inductive Handler where
  | wsWsHandler
  | wsSyncHandler
  | fileWatcherWatchHandler
  | pluginPluginWorkspaceWatch
  | notificationPostNotify
  | eventsEmitEvent
  | wsPostInput
  | openapiListSessions
  | openapiGetScreen
  | openapiGetScrollback
  | openapiSessionInput
  | openapiSessionResize
  | tabsListTabs
  | tabsCreateTab
  | tabsCreateSshQuickTab
  | tabsCreateSshTab
  | tabsCloseTab
  | tabsRenameTab
  | tabsSplitPane
  | tabsCreatePluginPane
  | tabsCreateFilesPane
  | tabsCreateWebPane
  | tabsMovePane
  | tabsExtractPane
  | tabsCreatePluginTab
  | tabsClosePane
  | tabsActivatePane
  | tabsUpdateLayout
  | login
  | requestCode
  | checkAuth
  | logout
  | listSessions
  | revokeOtherSessions
  | revokeSession
  | tokenConfigured
  | autoToken
  | settingsGetSettings
  | putSettingsWithSessionTtl
  | shellsGetShells
  | clipboardGetClipboard
  | settingsUploadBackground
  | settingsGetBackground
  | settingsGetLog
  | settingsGetLocales
  | settingsPostLocale
  | settingsGetLocaleRegistry
  | settingsFetchLocale
  | settingsDeleteLocale
  | settingsGetThemes
  | settingsPostTheme
  | settingsGetThemeRegistry
  | settingsInstallRegistryTheme
  | settingsDeleteTheme
  | templatesListTemplates
  | templatesCreateTemplate
  | templatesApplyTemplate
  | templatesGetTemplate
  | templatesUpdateTemplate
  | templatesDeleteTemplate
  | workspaceWorkspaceResolve
  | workspaceWorkspaceResolveAbs
  | workspaceWorkspaceList
  | workspaceWorkspaceMeta
  | workspaceWorkspaceRaw
  | workspaceWorkspaceUpload
  | workspaceWorkspaceUploads
  | workspaceUploadsStatus
  | workspaceUploadsClear
  | workspaceUploadsAdopt
  | workspaceUploadsDefaultDir
  | workspaceWorkspaceCreateEntry
  | workspaceWorkspacePutFile
  | workspaceWorkspaceDelete
  | workspaceWorkspaceRename
  | workspaceWorkspaceMove
  | workspaceWorkspaceGitStatus
  | workspaceWorkspaceGitDiff
  | workspaceWorkspaceReveal
  | workspaceWorkspaceCwd
  | workspaceWorkspaceGitStageLines
  | workspaceWorkspaceGitRevertLines
  | workspaceWorkspaceSyntaxCheck
  | workspaceWorkspaceSearch
  | workspaceMgmtListWorkspaces
  | workspaceMgmtCreateWorkspace
  | workspaceMgmtReorderWorkspaces
  | workspaceMgmtUpdateWorkspace
  | workspaceMgmtDeleteWorkspace
  | workspaceMgmtActivateWorkspace
  | workspaceMgmtDeactivateWorkspace
  | workspaceMgmtListDirs
  | historyGetHistory
  | historyDeleteHistory
  | proxyExternalProxyHandler
  | serverInfo
  | updateCheckGetUpdateStatus
  | getToken
  | updateToken
  | pluginListPlugins
  | pluginGetMarketRegistry
  | pluginGetMarketReadme
  | pluginDevLinkPlugin
  | pluginInstallFromDir
  | pluginInstallPlugin
  | pluginInstallFromGit
  | pluginUpdatePlugin
  | pluginPluginDetail
  | pluginDeletePlugin
  | pluginPluginExec
  | pluginPluginSpawnWs
  | pluginPluginProcessStart
  | pluginPluginProcessList
  | pluginPluginProcessStopAll
  | pluginPluginProcessStop
  | pluginPluginStorageList
  | pluginPluginStorageGet
  | pluginPluginStorageSet
  | pluginPluginStorageDelete
  | pluginPluginCryptoHash
  | pluginPluginCryptoHmac
  | pluginSubscribe
  | pluginUnsubscribe
  | pluginHasSubscriber
  | pluginPluginWorkspaceReadDir
  | pluginPluginWorkspaceReadFile
  | pluginPluginWorkspacePutFile
  | pluginPluginWorkspaceStat
  | pluginPluginWorkspaceMkdir
  | pluginPluginWorkspaceDelete
  | pluginPluginWorkspaceRename
  | pluginPluginWorkspaceMove
  | pluginPluginAsset
  | agentSessionsRun
  | agentSessionsSend
  | agentSessionsRead
  | agentEventsWsHandler
  | tokenCreateToken
  | tokenListTokens
  | tokenGetTokenDetail
  | tokenUpdateToken
  | tokenRevokeToken
  | transportMcpSseHandler
  | transportMcpMessageHandler
  | proxyProxyHandlerRoot
  | proxyProxyHandlerWildcard
  | proxyRelayDispatchHandler
  | settingsGetRemoteServers
  | settingsPutRemoteServers
  | settingsProbeRemoteServer
  | staticHandler
  | iconHandler
  | manifestHandler
  | swHandler
  | logo
  | index
  | settingsPutSettings
  | desktopServerInfo
  | desktopCheckAuth
  | desktopRequestCode
  | desktopCheckAuthSession
  | desktopLogout
  | desktopListSessionsHandler
  | desktopRevokeOtherSessions
  | desktopRevokeSessionHandler
  | desktopTokenConfigured
  | desktopAutoToken
  | desktopGetToken
  | desktopUpdateToken
  | desktopStaticHandler
  | desktopIconHandler
  | desktopManifestHandler
  | desktopLogo
  | desktopIndex
  deriving DecidableEq

inductive MethodFilter where
  | get
  | post
  | put
  | delete
  | any
  deriving DecidableEq

/-- A handler for GET answers HEAD too. -/
def MethodFilter.allows : MethodFilter → String → Bool
  | .get, method => method = "GET" || method = "HEAD"
  | .post, method => method = "POST"
  | .put, method => method = "PUT"
  | .delete, method => method = "DELETE"
  | .any, _ => true

/-- A pattern with the handlers of its methods, and whether the middleware that finds out whose
token a request carries is in front. -/
structure Route where
  pattern : Pattern
  handlers : List (MethodFilter × Handler)
  sessionsToken : Bool := false
  deriving DecidableEq

def route (pattern : Pattern) (handlers : List (MethodFilter × Handler)) : Route :=
  { pattern, handlers }

def api (pattern : Pattern) (handlers : List (MethodFilter × Handler)) : Route :=
  route ("api" :: pattern) handlers

/-- The routes of settings, templates and files, which both servers list in one order. -/
def settingsRoutes : List Route :=
  [api ["shells"] [(.get, .shellsGetShells)], api ["clipboard"] [(.get, .clipboardGetClipboard)],
    api ["settings", "background"]
      [(.post, .settingsUploadBackground), (.get, .settingsGetBackground)],
    api ["log"] [(.get, .settingsGetLog)],
    api ["locales"] [(.get, .settingsGetLocales), (.post, .settingsPostLocale)],
    api ["locales", "registry"] [(.get, .settingsGetLocaleRegistry)],
    api ["locales", "fetch"] [(.post, .settingsFetchLocale)],
    api ["locales", .param "tag"] [(.delete, .settingsDeleteLocale)],
    api ["themes"] [(.get, .settingsGetThemes), (.post, .settingsPostTheme)],
    api ["themes", "registry"] [(.get, .settingsGetThemeRegistry)],
    api ["themes", "install", .param "id"] [(.post, .settingsInstallRegistryTheme)],
    api ["themes", .param "id"] [(.delete, .settingsDeleteTheme)],
    api ["templates"] [(.get, .templatesListTemplates), (.post, .templatesCreateTemplate)],
    api ["templates", "apply"] [(.post, .templatesApplyTemplate)],
    { pattern := ["api", "templates", .param "id"], handlers := [(.get, .templatesGetTemplate),
        (.put, .templatesUpdateTemplate),
        (.delete, .templatesDeleteTemplate)] },
    api ["workspace", "resolve"] [(.get, .workspaceWorkspaceResolve)],
    api ["workspace", "resolve_abs"] [(.get, .workspaceWorkspaceResolveAbs)],
    api ["workspace", "list"] [(.get, .workspaceWorkspaceList)],
    api ["workspace", "meta"] [(.get, .workspaceWorkspaceMeta)],
    api ["workspace", "raw"] [(.get, .workspaceWorkspaceRaw)],
    api ["workspace", "upload"] [(.post, .workspaceWorkspaceUpload)],
    api ["uploads"] [(.post, .workspaceWorkspaceUploads), (.get, .workspaceUploadsStatus)],
    api ["uploads", "clear"] [(.post, .workspaceUploadsClear)],
    api ["uploads", "adopt"] [(.post, .workspaceUploadsAdopt)],
    api ["uploads", "default-dir"] [(.get, .workspaceUploadsDefaultDir)],
    api ["workspace", "create"] [(.post, .workspaceWorkspaceCreateEntry)],
    api ["workspace", "file"] [(.put, .workspaceWorkspacePutFile)],
    api ["workspace", "delete"] [(.delete, .workspaceWorkspaceDelete)],
    api ["workspace", "rename"] [(.post, .workspaceWorkspaceRename)],
    api ["workspace", "move"] [(.post, .workspaceWorkspaceMove)],
    api ["workspace", "git-status"] [(.get, .workspaceWorkspaceGitStatus)],
    api ["workspace", "git-diff"] [(.get, .workspaceWorkspaceGitDiff)]
  ]

/-- The routes of plugins and agents, which both servers list in one order. -/
def pluginRoutes : List Route :=
  [api ["plugins"] [(.get, .pluginListPlugins)],
    api ["plugins", "market"] [(.get, .pluginGetMarketRegistry)],
    api ["plugins", "market", .param "id", "readme"] [(.get, .pluginGetMarketReadme)],
    api ["plugins", "dev-link"] [(.post, .pluginDevLinkPlugin)],
    api ["plugins", "install-dir"] [(.post, .pluginInstallFromDir)],
    api ["plugins", "install"] [(.post, .pluginInstallPlugin)],
    api ["plugins", "install-git"] [(.post, .pluginInstallFromGit)],
    api ["plugins", .param "id", "update"] [(.post, .pluginUpdatePlugin)],
    api ["plugins", .param "id"] [(.get, .pluginPluginDetail), (.delete, .pluginDeletePlugin)],
    api ["plugins", .param "id", "exec"] [(.post, .pluginPluginExec)],
    api ["plugins", .param "id", "spawn"] [(.get, .pluginPluginSpawnWs)],
    api ["plugins", .param "id", "process", "start"] [(.post, .pluginPluginProcessStart)],
    api ["plugins", .param "id", "process"]
      [(.get, .pluginPluginProcessList), (.delete, .pluginPluginProcessStopAll)],
    api ["plugins", .param "id", "process", .param "pid"] [(.delete, .pluginPluginProcessStop)],
    api ["plugins", .param "id", "storage"] [(.get, .pluginPluginStorageList)],
    { pattern := ["api", "plugins", .param "id", "storage", .param "key"],
      handlers := [(.get, .pluginPluginStorageGet), (.put, .pluginPluginStorageSet),
        (.delete, .pluginPluginStorageDelete)] },
    api ["plugins", .param "id", "crypto", "hash"] [(.post, .pluginPluginCryptoHash)],
    api ["plugins", .param "id", "crypto", "hmac"] [(.post, .pluginPluginCryptoHmac)],
    api ["plugins", .param "id", "events", "subscribe"] [(.post, .pluginSubscribe)],
    api ["plugins", .param "id", "events", "unsubscribe"] [(.post, .pluginUnsubscribe)],
    api ["plugins", "events", "has-subscriber"] [(.get, .pluginHasSubscriber)],
    api ["plugins", .param "id", "workspace", "readDir"] [(.get, .pluginPluginWorkspaceReadDir)],
    api ["plugins", .param "id", "workspace", "readFile"] [(.get, .pluginPluginWorkspaceReadFile)],
    api ["plugins", .param "id", "workspace", "file"] [(.put, .pluginPluginWorkspacePutFile)],
    api ["plugins", .param "id", "workspace", "stat"] [(.get, .pluginPluginWorkspaceStat)],
    api ["plugins", .param "id", "workspace", "mkdir"] [(.post, .pluginPluginWorkspaceMkdir)],
    api ["plugins", .param "id", "workspace", "delete"] [(.delete, .pluginPluginWorkspaceDelete)],
    api ["plugins", .param "id", "workspace", "rename"] [(.post, .pluginPluginWorkspaceRename)],
    api ["plugins", .param "id", "workspace", "move"] [(.post, .pluginPluginWorkspaceMove)],
    api ["plugins", .param "id", .rest "path"] [(.get, .pluginPluginAsset)],
    ⟨["api", "sessions", .param "pane_id", "run"], [(.post, .agentSessionsRun)], true⟩,
    ⟨["api", "sessions", .param "pane_id", "send"], [(.post, .agentSessionsSend)], true⟩,
    ⟨["api", "sessions", .param "pane_id", "read"], [(.get, .agentSessionsRead)], true⟩,
    ⟨["ws", "events"], [(.get, .agentEventsWsHandler)], true⟩,
    ⟨["api", "tokens"], [(.post, .tokenCreateToken), (.get, .tokenListTokens)], true⟩,
    { pattern := ["api", "tokens", .param "id"], handlers := [(.get, .tokenGetTokenDetail),
        (.put, .tokenUpdateToken),
        (.delete, .tokenRevokeToken)],
      sessionsToken := true },
    ⟨["mcp", "sse"], [(.get, .transportMcpSseHandler)], true⟩,
    ⟨["mcp", "message"], [(.post, .transportMcpMessageHandler)], true⟩
  ]

def paneRoutes : List Route :=
  [api ["tabs", .param "tab_id", "pane"] [(.post, .tabsSplitPane)],
    api ["tabs", .param "tab_id", "pane", "plugin"] [(.post, .tabsCreatePluginPane)],
    api ["tabs", .param "tab_id", "pane", "files"] [(.post, .tabsCreateFilesPane)],
    api ["tabs", .param "tab_id", "pane", "web"] [(.post, .tabsCreateWebPane)],
    api ["tabs", .param "tab_id", "pane", "move"] [(.post, .tabsMovePane)],
    api ["tabs", "extract"] [(.post, .tabsExtractPane)],
    api ["tabs", "plugin"] [(.post, .tabsCreatePluginTab)],
    api ["tabs", .param "tab_id", "pane", .param "pane_id"] [(.delete, .tabsClosePane)],
    api ["tabs", .param "tab_id", "pane", .param "pane_id", "activate"] [(.put, .tabsActivatePane)],
    api ["tabs", .param "tab_id", "layout"] [(.put, .tabsUpdateLayout)]
  ]

def workspaceRoutes : List Route :=
  [
    api ["workspaces"]
      [(.get, .workspaceMgmtListWorkspaces), (.post, .workspaceMgmtCreateWorkspace)],
    api ["workspaces", "reorder"] [(.put, .workspaceMgmtReorderWorkspaces)],
    api ["workspaces", .param "id"]
      [(.put, .workspaceMgmtUpdateWorkspace), (.delete, .workspaceMgmtDeleteWorkspace)],
    api ["workspaces", .param "id", "activate"] [(.put, .workspaceMgmtActivateWorkspace)],
    api ["workspaces", "active"] [(.delete, .workspaceMgmtDeactivateWorkspace)]
  ]

/-- The routes of previews, relays and other servers. -/
def proxyRoutes : List Route :=
  [route ["preview", .param "port"] [(.any, .proxyProxyHandlerRoot)],
    route ["preview", .param "port", ""] [(.any, .proxyProxyHandlerRoot)],
    route ["preview", .param "port", .rest "path"] [(.any, .proxyProxyHandlerWildcard)],
    route ["__srv", .param "id"] [(.any, .proxyRelayDispatchHandler)],
    route ["__srv", .param "id", ""] [(.any, .proxyRelayDispatchHandler)],
    route ["__srv", .param "id", .rest "rest"] [(.any, .proxyRelayDispatchHandler)],
    api ["remote-servers"] [(.get, .settingsGetRemoteServers), (.put, .settingsPutRemoteServers)],
    api ["remote-servers", "probe"] [(.post, .settingsProbeRemoteServer)]
  ]

def serverRoutes : List Route :=
  [route ["ws"] [(.get, .wsWsHandler)], route ["ws", "sync"] [(.get, .wsSyncHandler)],
    route ["ws", "watch"] [(.get, .fileWatcherWatchHandler)],
    route ["ws", "plugins", .param "id", "workspace", "watch"]
      [(.get, .pluginPluginWorkspaceWatch)],
    api ["notify"] [(.post, .notificationPostNotify)],
    api ["events", "emit"] [(.post, .eventsEmitEvent)],
    api ["input"] [(.post, .wsPostInput)],
    api ["sessions"] [(.get, .openapiListSessions)],
    api ["sessions", .param "pane_id", "screen"] [(.get, .openapiGetScreen)],
    api ["sessions", .param "pane_id", "scrollback"] [(.get, .openapiGetScrollback)],
    api ["sessions", .param "pane_id", "input"] [(.post, .openapiSessionInput)],
    api ["sessions", .param "pane_id", "resize"] [(.post, .openapiSessionResize)],
    api ["tabs"] [(.get, .tabsListTabs), (.post, .tabsCreateTab)],
    api ["tabs", "ssh", "quick"] [(.post, .tabsCreateSshQuickTab)],
    api ["tabs", "ssh"] [(.post, .tabsCreateSshTab)],
    api ["tabs", .param "tab_id"] [(.delete, .tabsCloseTab)],
    api ["tabs", .param "tab_id", "rename"] [(.post, .tabsRenameTab)]
  ] ++ paneRoutes ++ [api ["auth"] [(.post, .login)],
    api ["auth", "request-code"] [(.post, .requestCode)],
    api ["auth", "check"] [(.get, .checkAuth)],
    api ["auth", "logout"] [(.post, .logout)],
    api ["auth", "sessions"] [(.get, .listSessions), (.delete, .revokeOtherSessions)],
    api ["auth", "sessions", .param "id"] [(.delete, .revokeSession)],
    api ["token-configured"] [(.get, .tokenConfigured)],
    api ["auto-token"] [(.get, .autoToken)],
    api ["settings"] [(.get, .settingsGetSettings), (.put, .putSettingsWithSessionTtl)]
  ] ++ settingsRoutes ++ [api ["workspace", "reveal"] [(.get, .workspaceWorkspaceReveal)],
    api ["workspace", "cwd"] [(.get, .workspaceWorkspaceCwd)],
    api ["workspace", "git-stage-lines"] [(.post, .workspaceWorkspaceGitStageLines)],
    api ["workspace", "git-revert-lines"] [(.post, .workspaceWorkspaceGitRevertLines)],
    api ["workspace", "syntax-check"] [(.post, .workspaceWorkspaceSyntaxCheck)],
    api ["workspace", "search"] [(.post, .workspaceWorkspaceSearch)]
  ] ++ workspaceRoutes ++ [api ["list-dirs"] [(.get, .workspaceMgmtListDirs)],
    api ["history"] [(.get, .historyGetHistory), (.delete, .historyDeleteHistory)],
    api ["proxy"] [(.any, .proxyExternalProxyHandler)],
    api ["info"] [(.get, .serverInfo)],
    api ["update-check"] [(.get, .updateCheckGetUpdateStatus)],
    api ["token"] [(.get, .getToken), (.put, .updateToken)]
  ] ++ pluginRoutes ++ proxyRoutes ++ [route ["assets", .rest "path"] [(.get, .staticHandler)],
    route ["icons", .rest "path"] [(.get, .iconHandler)],
    route ["manifest.json"] [(.get, .manifestHandler)],
    route ["sw.js"] [(.get, .swHandler)],
    route ["logo.png"] [(.get, .logo)],
    route [""] [(.get, .index)]
  ]

def desktopRoutes : List Route :=
  [route ["ws"] [(.get, .wsWsHandler)], route ["ws", "sync"] [(.get, .wsSyncHandler)],
    route ["ws", "watch"] [(.get, .fileWatcherWatchHandler)],
    api ["tabs"] [(.get, .tabsListTabs), (.post, .tabsCreateTab)],
    api ["tabs", "ssh", "quick"] [(.post, .tabsCreateSshQuickTab)],
    api ["tabs", "ssh"] [(.post, .tabsCreateSshTab)],
    api ["tabs", .param "tab_id"] [(.delete, .tabsCloseTab)]
  ] ++ paneRoutes ++ [api ["input"] [(.post, .wsPostInput)],
    api ["sessions"] [(.get, .openapiListSessions)],
    api ["sessions", .param "pane_id", "screen"] [(.get, .openapiGetScreen)],
    api ["sessions", .param "pane_id", "scrollback"] [(.get, .openapiGetScrollback)],
    api ["sessions", .param "pane_id", "input"] [(.post, .openapiSessionInput)],
    api ["sessions", .param "pane_id", "resize"] [(.post, .openapiSessionResize)],
    api ["settings"] [(.get, .settingsGetSettings), (.put, .settingsPutSettings)]
  ] ++ settingsRoutes ++ [
    api ["workspace", "git-stage-lines"] [(.post, .workspaceWorkspaceGitStageLines)],
    api ["workspace", "git-revert-lines"] [(.post, .workspaceWorkspaceGitRevertLines)],
    api ["workspace", "syntax-check"] [(.post, .workspaceWorkspaceSyntaxCheck)]
  ] ++ workspaceRoutes ++ [api ["notify"] [(.post, .notificationPostNotify)],
    api ["events", "emit"] [(.post, .eventsEmitEvent)],
    api ["history"] [(.get, .historyGetHistory), (.delete, .historyDeleteHistory)],
    api ["info"] [(.get, .desktopServerInfo)],
    api ["update-check"] [(.get, .updateCheckGetUpdateStatus)],
    api ["auth"] [(.post, .desktopCheckAuth)],
    api ["auth", "request-code"] [(.post, .desktopRequestCode)],
    api ["auth", "check"] [(.get, .desktopCheckAuthSession)],
    api ["auth", "logout"] [(.post, .desktopLogout)],
    api ["auth", "sessions"]
      [(.get, .desktopListSessionsHandler), (.delete, .desktopRevokeOtherSessions)],
    api ["auth", "sessions", .param "id"] [(.delete, .desktopRevokeSessionHandler)],
    api ["token-configured"] [(.get, .desktopTokenConfigured)],
    api ["auto-token"] [(.get, .desktopAutoToken)],
    api ["token"] [(.get, .desktopGetToken), (.put, .desktopUpdateToken)]
  ] ++ pluginRoutes ++ [api ["proxy"] [(.any, .proxyExternalProxyHandler)]
  ] ++ proxyRoutes ++ [route ["assets", .rest "path"] [(.get, .desktopStaticHandler)],
    route ["icons", .rest "path"] [(.get, .desktopIconHandler)],
    route ["manifest.json"] [(.get, .desktopManifestHandler)],
    route ["logo.png"] [(.get, .desktopLogo)],
    route [""] [(.get, .desktopIndex)]
  ]

/-- The segments of a path, behind the slash that it starts with. -/
def pathSegments (path : List Char) : Option (List String) :=
  match path with
  | '/' :: path => some ((path.splitOn '/').map String.ofList)
  | _ => none

@[simp] theorem pathSegments_cons (path : List Char) :
    pathSegments ('/' :: path) = some ((path.splitOn '/').map String.ofList) := rfl

theorem exists_of_pathSegments {path : List Char} {segments : List String}
    (parsed : pathSegments path = some segments) : ∃ tail, path = '/' :: tail := by
  unfold pathSegments at parsed
  split at parsed
  · exact ⟨_, rfl⟩
  · cases parsed

namespace Route

def admits (route : Route) (path : List Char) : Bool :=
  (pathSegments path).any route.pattern.admits

end Route

/-- A router answers with a route whose fixed segments the path has literally. Which of several it
prefers is left open. -/
structure Router (routes : List Route) where
  dispatch : String → List Char → Option (Route × Handler)
  sound : ∀ method path route handler, dispatch method path = some (route, handler) →
    route ∈ routes ∧ route.admits path = true ∧
      ∃ filter, (filter, handler) ∈ route.handlers ∧ filter.allows method = true

def Router.first (routes : List Route) : Router routes where
  dispatch method path := do
    let route ← routes.find? fun route => route.admits path
    let (_, handler) ← route.handlers.find? fun entry => entry.1.allows method
    return (route, handler)
  sound method path route handler dispatched := by
    obtain ⟨found, isFound, dispatched⟩ := Option.bind_eq_some_iff.mp dispatched
    obtain ⟨⟨filter, answers⟩, isAnswer, dispatched⟩ := Option.bind_eq_some_iff.mp dispatched
    obtain ⟨rfl, rfl⟩ := Prod.mk.injEq .. ▸ Option.some.inj dispatched
    have admitted : found.admits path = true :=
      find?_some (p := fun route : Route => route.admits path) isFound
    have answered : filter.allows method = true :=
      find?_some (p := fun (entry : MethodFilter × Handler) => entry.1.allows method) isAnswer
    exact ⟨mem_of_find?_eq_some isFound, admitted, filter, mem_of_find?_eq_some isAnswer, answered⟩

end Dinotty.Auth
