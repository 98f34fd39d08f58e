import MacroScribe.Fault
import MacroScribe.Text.Case
/-!
# MacroScribe.Token.Basic

The text tokens by the name of their preset, and looking them up. A token stands for a text that is
only known when a macro runs, such as the date. An unknown preset is an error only where a token is
asked for by name; where a preset may replace a text, an unknown one leaves the text as it is.
-/

namespace MacroScribe.Token

/-- Preset names and tokens, in the order of the names. -/
def table : List (String × String) :=
  [("ARandomUniqueID", "%RandomUUID%"),
   ("AddressBookEmail", "%AddressBook%Email%"),
   ("AddressBookFirstName", "%AddressBook%First%"),
   ("AddressBookLastName", "%AddressBook%Last%"),
   ("AddressBookName", "%AddressBook%Name%"),
   ("AddressBookNickname", "%AddressBook%Nickname%"),
   ("AddressBookNote", "%AddressBook%Note%"),
   ("AddressBookOrganization", "%AddressBook%Organization%"),
   ("AllAudioInputDevices", "%AudioInputDevices%"),
   ("AllAudioOutputDevices", "%AudioOutputDevices%"),
   ("AllBackgroundApplicationNames", "%Application%Background%"),
   ("AllForegroundApplicationNames", "%Application%Foreground%"),
   ("AllRunningApplicationNames", "%Application%All%"),
   ("AllScreenFrames", "%Screen%All%"),
   ("AllWindowNames", "%WindowName%All%"),
   ("Calculation", "%Calculate%1+2%"),
   ("CalculationWithResultInBinary", "%Bin8%1+2%"),
   ("CalculationWithResultInDecimal", "%Dec2%1+2%"),
   ("CalculationWithResultInHex", "%Hex2%1+2%"),
   ("CalculationWithResultInOctal", "%Oct3%1+2%"),
   ("CommaSeparatedListOfTheCurrentExecutionInstances", "%ExecutingInstances%"),
   ("CommaSeparatedListOfVariablesAccessedByThisMacro", "%AccessedVariables%"),
   ("CurrentAudioInputDevice", "%AudioInputDevice%"),
   ("CurrentAudioInputDeviceUID", "%AudioInputDeviceUID%"),
   ("CurrentAudioOutputDevice", "%AudioOutputDevice%"),
   ("CurrentAudioOutputDeviceUID", "%AudioOutputDeviceUID%"),
   ("CurrentAudioSoundEffectsDevice", "%AudioSoundEffectsDevice%"),
   ("CurrentAudioSoundEffectsDeviceUID", "%AudioSoundEffectsDeviceUID%"),
   ("CurrentMouseLocation", "%CurrentMouse%"),
   ("CurrentTrackAlbum", "%CurrentTrack%album%"),
   ("CurrentTrackArtist", "%CurrentTrack%artist%"),
   ("CurrentTrackName", "%CurrentTrack%name%"),
   ("CurrentTrackRating", "%CurrentTrack%ratingstars%"),
   ("Delete", "%Delete%"),
   ("ExecutingMacro", "%ExecutingMacro%"),
   ("ExecutingMacroGroup", "%ExecutingMacroGroup%"),
   ("ExecutingMacroGroupUUID", "%ExecutingMacroGroupUUID%"),
   ("ExecutingMacroUUID", "%ExecutingMacroUUID%"),
   ("ExecutingThisMacro", "%ExecutingThisMacro%"),
   ("ExecutingThisMacroGroup", "%ExecutingThisMacroGroup%"),
   ("ExecutingThisMacroGroupUUID", "%ExecutingThisMacroGroupUUID%"),
   ("ExecutingThisMacroUUID", "%ExecutingThisMacroUUID%"),
   ("FindPasteboard", "%FindPasteboard%"),
   ("FinderInsertionLocationPath", "%FinderInsertionLocation%"),
   ("FirstScreenFrame", "%Screen%1%"),
   ("FormattedCalculation", "%CalculateFormat%1+2%#,##0.00#%"),
   ("FormattedICUDateTime", "%ICUDateTime%EEE, MMM d, yyyy h:mm%"),
   ("FormattedICUDateTimeFor", "%ICUDateTimeFor%NOW()+20%EEE, MMM d, yyyy h:mm%"),
   ("FormattedICUDateTimeMinus", "%ICUDateTimeMinus%3*7%Days%EEE, MMM d, yyyy h:mm%"),
   ("FormattedICUDateTimePlus", "%ICUDateTimePlus%3*7%Days%EEE, MMM d, yyyy h:mm%"),
   ("FrontApplicationBundleID", "%ApplicationBundleID%1%"),
   ("FrontApplicationLongVersion", "%ApplicationLongVersion%1%"),
   ("FrontApplicationName", "%Application%1%"),
   ("FrontApplicationPath", "%ApplicationPath%1%"),
   ("FrontApplicationVersion", "%ApplicationVersion%1%"),
   ("FrontBrowserBundleID", "%FrontBrowserBundleID%"),
   ("FrontBrowserDocumentTitle", "%FrontBrowserTitle%"),
   ("FrontBrowserDocumentURL", "%FrontBrowserURL%"),
   ("FrontBrowserField", "%FrontBrowserField%document.forms[0][0]%"),
   ("FrontBrowserJavaScript", "%FrontBrowserJavaScript%document.forms[0].innerHTML%"),
   ("FrontBrowserLongVersion", "%FrontBrowserLongVersion%"),
   ("FrontBrowserName", "%FrontBrowserName%"),
   ("FrontBrowserPath", "%FrontBrowserPath%"),
   ("FrontBrowserReadyState", "%FrontBrowserReadyState%"),
   ("FrontBrowserVersion", "%FrontBrowserVersion%"),
   ("FrontBrowserWindowName", "%FrontBrowserWindowName%"),
   ("FrontWindowFrame", "%WindowFrame%1%"),
   ("FrontWindowName", "%WindowName%1%"),
   ("FrontWindowPosition", "%WindowPosition%1%"),
   ("FrontWindowSize", "%WindowSize%1%"),
   ("GoogleChromeBundleID", "%ChromeBundleID%"),
   ("GoogleChromeDocumentTitle", "%ChromeTitle%"),
   ("GoogleChromeDocumentURL", "%ChromeURL%"),
   ("GoogleChromeField", "%ChromeField%document.forms[0][0]%"),
   ("GoogleChromeJavaScript", "%ChromeJavaScript%document.forms[0].innerHTML%"),
   ("GoogleChromeLongVersion", "%ChromeLongVersion%"),
   ("GoogleChromeName", "%ChromeName%"),
   ("GoogleChromePath", "%ChromePath%"),
   ("GoogleChromeReadyState", "%ChromeReadyState%"),
   ("GoogleChromeVersion", "%ChromeVersion%"),
   ("GoogleChromeWindowName", "%ChromeWindowName%"),
   ("IDOfLastKeyboardMaestroEngineWindowOpenedByThisMacro", "%LastWindowID%"),
   ("IDOfTheLastAbortedAction", "%LastAbortedActionID%"),
   ("JSONFromDictionary", "%JSONFromDictionary%DictionaryName%"),
   ("JSONFromVariables", "%JSONFromVariables%Prefix%"),
   ("JSONValue", "%JSONValue%VariableName.field(field)[1]%"),
   ("KeyboardLayoutInputSource", "%KeyboardLayout%"),
   ("KeyboardMaestroLongVersion", "%KeyboardMaestroLongVersion%"),
   ("KeyboardMaestroVersion", "%KeyboardMaestroVersion%"),
   ("Linefeed", "%LineFeed%"),
   ("LongDate", "%LongDate%"),
   ("MachineIPAddress", "%MacIPAddress%"),
   ("MachineName", "%MacName%"),
   ("MachineUniqueID", "%MacUUID%"),
   ("MacroNameForUUID", "%MacroNameForUUID%UUID%"),
   ("MailBCCRecipients", "%MailBCCRecipients%"),
   ("MailCCRecipients", "%MailCCRecipients%"),
   ("MailContents", "%MailContents%"),
   ("MailRawSource", "%MailRawSource%"),
   ("MailRecipients", "%MailRecipients%"),
   ("MailReplyTo", "%MailReplyTo%"),
   ("MailSender", "%MailSender%"),
   ("MailSubject", "%MailSubject%"),
   ("MailToRecipients", "%MailToRecipients%"),
   ("MainScreenFrame", "%Screen%Main%"),
   ("MainScreenPossibleResolutions", "%ScreenResolutions%Main%"),
   ("MainScreenResolution", "%ScreenResolution%Main%"),
   ("MainScreenVisibleFrame", "%ScreenVisible%Main%"),
   ("MusicPlayerState", "%MusicPlayerState%"),
   ("NamedClipboard", "%NamedClipboard%A Named Clipboard%"),
   ("NamedClipboardFlavors", "%NamedClipboardFlavors%A Named Clipboard%"),
   ("NetworkLocation", "%NetworkLocation%"),
   ("NumberDate", "%NumberDate%"),
   ("OpaqueIDOfTheCurrentExecutionInstance", "%ExecutingInstance%"),
   ("OptionReturn", "%OptionReturn%"),
   ("PastClipboard", "%PastClipboard%1%"),
   ("PastClipboardFlavors", "%PastClipboardFlavors%1%"),
   ("PositionCursor", "%|%"),
   ("PreviousApplicationName", "%Application%2%"),
   ("PromptForSnippetPlaceholderDefaultFromVariable", "%Ask20:VarName%"),
   ("PromptForSnippetPlaceholderDefaultText", "%Ask20:Default%"),
   ("Return", "%Return%"),
   ("SafariBundleID", "%SafariBundleID%"),
   ("SafariDocumentTitle", "%SafariTitle%"),
   ("SafariDocumentURL", "%SafariURL%"),
   ("SafariField", "%SafariField%document.forms[0][0]%"),
   ("SafariJavaScript", "%SafariJavaScript%document.forms[0].innerHTML%"),
   ("SafariLongVersion", "%SafariLongVersion%"),
   ("SafariName", "%SafariName%"),
   ("SafariPath", "%SafariPath%"),
   ("SafariReadyState", "%SafariReadyState%"),
   ("SafariVersion", "%SafariVersion%"),
   ("SafariWindowName", "%SafariWindowName%"),
   ("SecondScreenFrame", "%Screen%2%"),
   ("ShortDate", "%ShortDate%"),
   ("Space", "%Space%"),
   ("SuccessResultOfLastAction", "%ActionResult%"),
   ("SystemClipboard", "%SystemClipboard%"),
   ("SystemClipboardFlavors", "%SystemClipboardFlavors%"),
   ("SystemLongVersion", "%SystemLongVersion%"),
   ("SystemVersion", "%SystemVersion%"),
   ("SystemVolume", "%SystemVolume%"),
   ("Tab", "%Tab%"),
   ("TheLastAlertButtonSelected", "%AlertButton%"),
   ("TheLastCustomHTMLResult", "%HTMLResult%"),
   ("TheLastFoundImage", "%FoundImage%"),
   ("TheLastPromptButtonSelected", "%PromptButton%"),
   ("TheMacroNameOfTheSpecifiedInstance", "%ExecutingInstanceName%"),
   ("TheModifiersUsedWhenCompletingAPromptWithListAction", "%PromptWithListModifiers%"),
   ("ThePathOfTheFrontWindowDocument", "%FrontDocumentPath%"),
   ("ThePathOfTheSelectedFinderItem", "%FinderSelection%"),
   ("ThePathsOfTheSelectedFinderItems", "%FinderSelections%"),
   ("TheTextEnteredInAPasteByNameAction", "%PasteByNameText%"),
   ("TheTextEnteredInAPromptWithListAction", "%PromptWithListText%"),
   ("TheTextEnteredInASelectMenuByNameAction", "%SelectMenuByNameText%"),
   ("Time", "%ShortTime%"),
   ("TimeWithSeconds", "%LongTime%"),
   ("TrippedTriggerClipboardFlavors", "%TriggerClipboardFlavors%"),
   ("TrippedTriggerClipboardValue", "%TriggerClipboard%"),
   ("TrippedTriggerText", "%Trigger%"),
   ("TrippedTriggerType", "%TriggerBase%"),
   ("TrippedTriggerValue", "%TriggerValue%"),
   ("UserHomeDirectory", "%UserHome%"),
   ("UserLoginID", "%UserLoginID%"),
   ("UserName", "%UserName%"),
   ("WirelessNetworkNames", "%WirelessNetwork%")]

/-! ### Looking tokens up -/

/-- The token of a preset. -/
def get? (name : String) : Option String :=
  (table.find? (·.1 == name)).map (·.2)

/-- The token of a preset that has to exist. -/
def get (name : String) : Outcome String :=
  match get? name with
  | some token => .ok token
  | none => .error (.unknownToken name)

/-- The presets whose names begin with `start`, case disregarded. -/
def list (start : String) : List (String × String) :=
  table.filter fun entry =>
    (Text.lower start.toList).isPrefixOf (Text.lower entry.1.toList)

/-- The token of a preset, or the text if there is no such preset. -/
def resolve (text name : String) : String :=
  (get? name).getD text

end MacroScribe.Token
