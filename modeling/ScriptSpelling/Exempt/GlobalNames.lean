/-!
# Global names

Names of globals that runtimes, test runners and scripting environments define. Sources that use
them are not misspelled, whatever a dictionary says about their parts.
-/

namespace ScriptSpelling.GlobalNames

/-- Names that the language itself defines. -/
def builtin : List String := [
  "AggregateError", "Array", "ArrayBuffer", "Atomics", "BigInt", "BigInt64Array",
  "BigUint64Array", "Boolean", "DataView", "Date", "decodeURI", "decodeURIComponent", "encodeURI",
  "encodeURIComponent", "Error", "escape", "eval", "EvalError", "FinalizationRegistry",
  "Float32Array", "Float64Array", "Function", "globalThis", "Infinity", "Int16Array",
  "Int32Array", "Int8Array", "Intl", "isFinite", "isNaN", "JSON", "Map", "Math", "NaN", "Number",
  "Object", "parseFloat", "parseInt", "Promise", "Proxy", "RangeError", "ReferenceError",
  "Reflect", "RegExp", "Set", "SharedArrayBuffer", "String", "Symbol", "SyntaxError", "TypeError",
  "Uint16Array", "Uint32Array", "Uint8Array", "Uint8ClampedArray", "undefined", "unescape",
  "URIError", "WeakMap", "WeakRef", "WeakSet"]

def browser : List String := [
  "AbortController", "AbortSignal", "addEventListener", "alert", "AnimationEvent", "atob",
  "Audio", "AudioContext", "Blob", "blur", "btoa", "BroadcastChannel", "caches",
  "cancelAnimationFrame", "cancelIdleCallback", "CanvasRenderingContext2D", "CharacterData",
  "clearInterval", "clearTimeout", "ClipboardEvent", "close", "closed", "CloseEvent", "Comment",
  "CompositionEvent", "confirm", "console", "createImageBitmap", "crypto", "CSS",
  "CSSStyleDeclaration", "CSSStyleSheet", "customElements", "CustomEvent", "devicePixelRatio",
  "dispatchEvent", "document", "Document", "DocumentFragment", "DOMException", "DOMParser",
  "DOMRect", "DOMTokenList", "DragEvent", "Element", "ErrorEvent", "event", "Event",
  "EventSource", "EventTarget", "external", "fetch", "File", "FileList", "FileReader", "find",
  "focus", "FocusEvent", "FormData", "frameElement", "frames", "getComputedStyle", "getSelection",
  "HashChangeEvent", "Headers", "history", "History", "HTMLAnchorElement", "HTMLButtonElement",
  "HTMLCanvasElement", "HTMLCollection", "HTMLDivElement", "HTMLDocument", "HTMLElement",
  "HTMLFormElement", "HTMLIFrameElement", "HTMLImageElement", "HTMLInputElement",
  "HTMLSelectElement", "HTMLSpanElement", "HTMLTemplateElement", "HTMLTextAreaElement",
  "HTMLVideoElement", "IDBDatabase", "IDBKeyRange", "Image", "ImageData", "indexedDB",
  "innerHeight", "innerWidth", "InputEvent", "IntersectionObserver", "isSecureContext",
  "KeyboardEvent", "length", "localStorage", "location", "Location", "locationbar", "matchMedia",
  "MediaQueryList", "MediaRecorder", "MediaStream", "menubar", "MessageChannel", "MessageEvent",
  "MessagePort", "MouseEvent", "moveBy", "moveTo", "MutationObserver", "name", "navigator",
  "Navigator", "Node", "NodeFilter", "NodeList", "Notification", "offscreenBuffering",
  "onbeforeunload", "onblur", "onchange", "onclick", "onerror", "onfocus", "onhashchange",
  "oninput", "onkeydown", "onkeypress", "onkeyup", "onload", "onmessage", "onmousedown",
  "onmousemove", "onmouseup", "onpagehide", "onpageshow", "onpopstate", "onresize", "onscroll",
  "onstorage", "onsubmit", "onunload", "open", "opener", "Option", "origin", "outerHeight",
  "outerWidth", "PageTransitionEvent", "pageXOffset", "pageYOffset", "parent", "Path2D",
  "performance", "Performance", "personalbar", "PointerEvent", "PopStateEvent", "postMessage",
  "print", "ProgressEvent", "prompt", "queueMicrotask", "Range", "releaseEvents",
  "removeEventListener", "Request", "requestAnimationFrame", "requestIdleCallback", "resizeBy",
  "ResizeObserver", "resizeTo", "Response", "screen", "Screen", "screenLeft", "screenTop",
  "screenX", "screenY", "scroll", "scrollbars", "scrollBy", "scrollTo", "scrollX", "scrollY",
  "Selection", "self", "sessionStorage", "setInterval", "setTimeout", "ShadowRoot",
  "SharedWorker", "speechSynthesis", "status", "statusbar", "stop", "Storage", "StorageEvent",
  "structuredClone", "SubmitEvent", "SVGElement", "SVGSVGElement", "Text", "TextDecoder",
  "TextEncoder", "toolbar", "top", "Touch", "TouchEvent", "TransitionEvent", "TreeWalker",
  "UIEvent", "URL", "URLSearchParams", "visualViewport", "WebGLRenderingContext", "WebSocket",
  "WheelEvent", "window", "Window", "Worker", "XMLDocument", "XMLHttpRequest", "XMLSerializer",
  "XPathResult"]

def node : List String := [
  "__dirname", "__filename", "AbortController", "AbortSignal", "Buffer", "clearImmediate",
  "clearInterval", "clearTimeout", "console", "exports", "fetch", "global", "Intl", "module",
  "process", "queueMicrotask", "require", "setImmediate", "setInterval", "setTimeout",
  "structuredClone", "TextDecoder", "TextEncoder", "URL", "URLSearchParams", "WebAssembly"]

def mocha : List String := [
  "after", "afterEach", "before", "beforeEach", "context", "describe", "it", "mocha", "run",
  "setup", "specify", "suite", "suiteSetup", "suiteTeardown", "teardown", "test", "xcontext",
  "xdescribe", "xit", "xspecify"]

def jasmine : List String := [
  "afterAll", "afterEach", "beforeAll", "beforeEach", "describe", "expect", "expectAsync", "fail",
  "fdescribe", "fit", "it", "jasmine", "pending", "runs", "spyOn", "spyOnAllFunctions",
  "spyOnProperty", "waits", "waitsFor", "xdescribe", "xit"]

def jquery : List String := [
  "$", "jQuery"]

def shelljs : List String := [
  "cat", "cd", "chmod", "config", "cp", "dirs", "echo", "env", "error", "exec", "exit", "find",
  "grep", "ln", "ls", "mkdir", "mv", "popd", "pushd", "pwd", "rm", "sed", "set", "target",
  "tempdir", "test", "touch", "which"]

/-- Every table, one after the other; a name that two tables share occurs twice. -/
def all : List String := builtin ++ browser ++ node ++ mocha ++ jasmine ++ jquery ++ shelljs

end ScriptSpelling.GlobalNames
