/-
The fixed atom inventory of the observation actor
(`xenoteer-x11/src/observe/atoms.rs`): every atom it may intern, with its wire
name. The numbers the server gave them are a `KnownAtoms`.
-/
import Xenoteer.Protocol.Window

namespace Xenoteer.Observe

abbrev Window := UInt32

abbrev Atom := UInt32

inductive KnownAtom where
  | netClientListStacking
  | netClientList
  | netActiveWindow
  | netSupported
  | netCloseWindow
  | netMoveResizeWindow
  | netCurrentDesktop
  | netNumberOfDesktops
  | netRestackWindow
  | netWmName
  | netWmVisibleName
  | netWmIconName
  | netWmVisibleIconName
  | netWmPid
  | netWmWindowType
  | netWmWindowTypeDesktop
  | netWmWindowTypeDock
  | netWmWindowTypeToolbar
  | netWmWindowTypeMenu
  | netWmWindowTypeUtility
  | netWmWindowTypeSplash
  | netWmWindowTypeDialog
  | netWmWindowTypeDropdownMenu
  | netWmWindowTypePopupMenu
  | netWmWindowTypeTooltip
  | netWmWindowTypeNotification
  | netWmWindowTypeCombo
  | netWmWindowTypeDnd
  | netWmWindowTypeNormal
  | netWmState
  | netWmStateMaximizedVert
  | netWmStateMaximizedHorz
  | netWmStateFullscreen
  | netWmStateAbove
  | netWmStateSticky
  | netWmStateHidden
  | netWmStateModal
  | netWmStateShaded
  | netWmStateSkipTaskbar
  | netWmStateSkipPager
  | netWmStateBelow
  | netWmStateDemandsAttention
  | netWmStateFocused
  | netWmAllowedActions
  | netWmActionMove
  | netWmActionResize
  | netWmActionMinimize
  | netWmActionShade
  | netWmActionStick
  | netWmActionMaximizeHorz
  | netWmActionMaximizeVert
  | netWmActionChangeDesktop
  | netWmActionClose
  | netWmActionAbove
  | netWmActionBelow
  | netWmActionFullscreen
  | netWmDesktop
  | netFrameExtents
  | wmClientLeader
  | wmProtocols
  | wmDeleteWindow
  | wmTakeFocus
  | netWmPing
  | netWmSyncRequest
  | wmChangeState
  | utf8String
  | string
  | atom
  | cardinal
  | window
  | wmName
  | wmIconName
  | wmClass
  | wmClientMachine
  | wmTransientFor
  | wmHints
deriving DecidableEq

namespace KnownAtom

def name : KnownAtom → Text
  | .netClientListStacking => "_NET_CLIENT_LIST_STACKING".toList
  | .netClientList => "_NET_CLIENT_LIST".toList
  | .netActiveWindow => "_NET_ACTIVE_WINDOW".toList
  | .netSupported => "_NET_SUPPORTED".toList
  | .netCloseWindow => "_NET_CLOSE_WINDOW".toList
  | .netMoveResizeWindow => "_NET_MOVERESIZE_WINDOW".toList
  | .netCurrentDesktop => "_NET_CURRENT_DESKTOP".toList
  | .netNumberOfDesktops => "_NET_NUMBER_OF_DESKTOPS".toList
  | .netRestackWindow => "_NET_RESTACK_WINDOW".toList
  | .netWmName => "_NET_WM_NAME".toList
  | .netWmVisibleName => "_NET_WM_VISIBLE_NAME".toList
  | .netWmIconName => "_NET_WM_ICON_NAME".toList
  | .netWmVisibleIconName => "_NET_WM_VISIBLE_ICON_NAME".toList
  | .netWmPid => "_NET_WM_PID".toList
  | .netWmWindowType => "_NET_WM_WINDOW_TYPE".toList
  | .netWmWindowTypeDesktop => "_NET_WM_WINDOW_TYPE_DESKTOP".toList
  | .netWmWindowTypeDock => "_NET_WM_WINDOW_TYPE_DOCK".toList
  | .netWmWindowTypeToolbar => "_NET_WM_WINDOW_TYPE_TOOLBAR".toList
  | .netWmWindowTypeMenu => "_NET_WM_WINDOW_TYPE_MENU".toList
  | .netWmWindowTypeUtility => "_NET_WM_WINDOW_TYPE_UTILITY".toList
  | .netWmWindowTypeSplash => "_NET_WM_WINDOW_TYPE_SPLASH".toList
  | .netWmWindowTypeDialog => "_NET_WM_WINDOW_TYPE_DIALOG".toList
  | .netWmWindowTypeDropdownMenu => "_NET_WM_WINDOW_TYPE_DROPDOWN_MENU".toList
  | .netWmWindowTypePopupMenu => "_NET_WM_WINDOW_TYPE_POPUP_MENU".toList
  | .netWmWindowTypeTooltip => "_NET_WM_WINDOW_TYPE_TOOLTIP".toList
  | .netWmWindowTypeNotification => "_NET_WM_WINDOW_TYPE_NOTIFICATION".toList
  | .netWmWindowTypeCombo => "_NET_WM_WINDOW_TYPE_COMBO".toList
  | .netWmWindowTypeDnd => "_NET_WM_WINDOW_TYPE_DND".toList
  | .netWmWindowTypeNormal => "_NET_WM_WINDOW_TYPE_NORMAL".toList
  | .netWmState => "_NET_WM_STATE".toList
  | .netWmStateMaximizedVert => "_NET_WM_STATE_MAXIMIZED_VERT".toList
  | .netWmStateMaximizedHorz => "_NET_WM_STATE_MAXIMIZED_HORZ".toList
  | .netWmStateFullscreen => "_NET_WM_STATE_FULLSCREEN".toList
  | .netWmStateAbove => "_NET_WM_STATE_ABOVE".toList
  | .netWmStateSticky => "_NET_WM_STATE_STICKY".toList
  | .netWmStateHidden => "_NET_WM_STATE_HIDDEN".toList
  | .netWmStateModal => "_NET_WM_STATE_MODAL".toList
  | .netWmStateShaded => "_NET_WM_STATE_SHADED".toList
  | .netWmStateSkipTaskbar => "_NET_WM_STATE_SKIP_TASKBAR".toList
  | .netWmStateSkipPager => "_NET_WM_STATE_SKIP_PAGER".toList
  | .netWmStateBelow => "_NET_WM_STATE_BELOW".toList
  | .netWmStateDemandsAttention => "_NET_WM_STATE_DEMANDS_ATTENTION".toList
  | .netWmStateFocused => "_NET_WM_STATE_FOCUSED".toList
  | .netWmAllowedActions => "_NET_WM_ALLOWED_ACTIONS".toList
  | .netWmActionMove => "_NET_WM_ACTION_MOVE".toList
  | .netWmActionResize => "_NET_WM_ACTION_RESIZE".toList
  | .netWmActionMinimize => "_NET_WM_ACTION_MINIMIZE".toList
  | .netWmActionShade => "_NET_WM_ACTION_SHADE".toList
  | .netWmActionStick => "_NET_WM_ACTION_STICK".toList
  | .netWmActionMaximizeHorz => "_NET_WM_ACTION_MAXIMIZE_HORZ".toList
  | .netWmActionMaximizeVert => "_NET_WM_ACTION_MAXIMIZE_VERT".toList
  | .netWmActionChangeDesktop => "_NET_WM_ACTION_CHANGE_DESKTOP".toList
  | .netWmActionClose => "_NET_WM_ACTION_CLOSE".toList
  | .netWmActionAbove => "_NET_WM_ACTION_ABOVE".toList
  | .netWmActionBelow => "_NET_WM_ACTION_BELOW".toList
  | .netWmActionFullscreen => "_NET_WM_ACTION_FULLSCREEN".toList
  | .netWmDesktop => "_NET_WM_DESKTOP".toList
  | .netFrameExtents => "_NET_FRAME_EXTENTS".toList
  | .wmClientLeader => "WM_CLIENT_LEADER".toList
  | .wmProtocols => "WM_PROTOCOLS".toList
  | .wmDeleteWindow => "WM_DELETE_WINDOW".toList
  | .wmTakeFocus => "WM_TAKE_FOCUS".toList
  | .netWmPing => "_NET_WM_PING".toList
  | .netWmSyncRequest => "_NET_WM_SYNC_REQUEST".toList
  | .wmChangeState => "WM_CHANGE_STATE".toList
  | .utf8String => "UTF8_STRING".toList
  | .string => "STRING".toList
  | .atom => "ATOM".toList
  | .cardinal => "CARDINAL".toList
  | .window => "WINDOW".toList
  | .wmName => "WM_NAME".toList
  | .wmIconName => "WM_ICON_NAME".toList
  | .wmClass => "WM_CLASS".toList
  | .wmClientMachine => "WM_CLIENT_MACHINE".toList
  | .wmTransientFor => "WM_TRANSIENT_FOR".toList
  | .wmHints => "WM_HINTS".toList

end KnownAtom

abbrev KnownAtoms := KnownAtom → Atom

end Xenoteer.Observe
